import Mathlib.Tactic.SplitIfs
import LinkLedger.Address.Check
import LinkLedger.Http.Response
import LinkLedger.Proofs.Text.Plain

/-!
# What an accepted url is fit for

`checkUrl_eq_ok_iff` spells out the conditions of the check. One of them, that there are no
controls, is what a header asks of its value: **an accepted url can be sent in a header**
(`isHeaderValue_of_accepted`).
-/

set_option autoImplicit false

namespace LinkLedger

open LinkLedger.Http LinkLedger.Text LinkLedger.Unicode

/-- The conditions under which a url is accepted. -/
theorem checkUrl_eq_ok_iff {url : String} :
    checkUrl url = .ok () ↔
      url ≠ "" ∧ url.utf8ByteSize ≤ maxUrlBytes ∧ hasBlankEnd url.toList = false ∧
        url.toList.any isControl = false ∧
        ∃ target, Address.parse url = .ok target ∧
          (target.scheme = "http" ∨ target.scheme = "https") := by
  unfold checkUrl
  split_ifs with hempty hlong hblank hcontrol
  · exact iff_of_false (by simp) fun h => h.1 (by simpa using hempty)
  · exact iff_of_false (by simp) fun h => absurd hlong (Nat.not_lt.mpr h.2.1)
  · exact iff_of_false (by simp) fun h => absurd hblank (by simp [h.2.2.1])
  · exact iff_of_false (by simp) fun h => absurd hcontrol (by simp [h.2.2.2.1])
  · have before : url ≠ "" ∧ url.utf8ByteSize ≤ maxUrlBytes ∧ hasBlankEnd url.toList = false ∧
        url.toList.any isControl = false := by
      refine ⟨by simpa using hempty, Nat.not_lt.mp hlong, ?_, ?_⟩
      · exact eq_false_of_ne_true hblank
      · exact eq_false_of_ne_true hcontrol
    simp only [before, ne_eq, not_false_iff, true_and]
    cases hparse : Address.parse url with
    | error cause => simp
    | ok target =>
      by_cases hscheme : target.scheme = "http" ∨ target.scheme = "https" <;> simp [hscheme]

/-! ## Headers -/

theorem byte_ofNat {n : Nat} (h : 0x20 ≤ n) (hdelete : n ≠ 0x7F) (hbyte : n < 256) :
    0x20 ≤ UInt8.ofNat n ∧ UInt8.ofNat n ≠ 0x7F := by
  have hword : (UInt8.ofNat n).toNat = n := by
    rw [UInt8.toNat_ofNat']
    exact Nat.mod_eq_of_lt hbyte
  constructor
  · rw [UInt8.le_iff_toNat_le, hword]
    exact h
  · intro heq
    exact hdelete (hword ▸ congrArg UInt8.toNat heq)

/-- A character that is no control has no control among its bytes: the one byte of an ASCII
    character is the character, and all bytes of others are above ASCII. -/
theorem bytes_of_not_control {c : Char} (h : isControl c = false) :
    ∀ b ∈ String.utf8EncodeChar c, 0x20 ≤ b ∧ b ≠ 0x7F := by
  have hrange : 0x20 ≤ c.val.toNat ∧ (c.val.toNat < 0x7F ∨ 0xA0 ≤ c.val.toNat) := by
    simp only [isControl, Bool.or_eq_false_iff, decide_eq_false_iff_not, Bool.and_eq_false_iff] at h
    exact ⟨by simpa using h.1, by simpa using h.2⟩
  intro b hb
  simp only [String.utf8EncodeChar] at hb
  split_ifs at hb with hone htwo hthree
  · obtain rfl := List.mem_singleton.mp hb
    exact byte_ofNat hrange.1 (by omega) (by omega)
  all_goals
    simp only [List.mem_cons, List.not_mem_nil, or_false] at hb
    rcases hb with rfl | rfl | rfl | rfl <;>
      exact byte_ofNat (by omega) (by omega) (by omega)

theorem bytes_of_no_control {text : String} (h : text.toList.any isControl = false) :
    ∀ b ∈ text.toByteArray.toList, 0x20 ≤ b ∧ b ≠ 0x7F := by
  intro b hb
  rw [toList_toByteArray] at hb
  obtain ⟨c, hc, hbyte⟩ := List.mem_flatMap.mp hb
  exact bytes_of_not_control (by simpa using List.any_eq_false.mp h c hc) b hbyte

theorem isHeaderValue_of_no_control {text : String} (h : text.toList.any isControl = false) :
    isHeaderValue text = true := by
  rw [isHeaderValue, List.all_eq_true]
  intro b hb
  obtain ⟨hspace, hdelete⟩ := bytes_of_no_control h b hb
  simp [isHeaderByte, hspace, hdelete]

/-- **An accepted url can be sent in a header.** -/
theorem isHeaderValue_of_accepted {url : String} (h : checkUrl url = .ok ()) :
    isHeaderValue url = true := by
  obtain ⟨-, -, -, hcontrol, -⟩ := checkUrl_eq_ok_iff.mp h
  exact isHeaderValue_of_no_control hcontrol

end LinkLedger
