import Mathlib.Data.List.DropRight
import LinkLedger.Proofs.Gateway.Permalinks

/-!
# How an address and what hangs off it stay apart

The base for an address is the address without the separators at its end; it is the only text of
which that can be said (`Base.trims_iff`), so a run of separators more or less makes no difference.

What is appended to the base stands behind one separator, which is the first question mark exactly
if the base has none. So the whole can be taken apart again: **what stands in front of the first
question mark is the base's, and the parameters are those of the base and then those that were
appended** (`base_and_query_stay_apart`).
-/

set_option autoImplicit false

namespace LinkLedger.Gateway

open LinkLedger.Text

/-! ## Addresses and bases -/

theorem isSeparator_iff {c : Char} : isSeparator c = true ↔ c = '?' ∨ c = '&' := by
  simp [isSeparator]

namespace Base

/-- A base is an address without the question marks and ampersands at its end. -/
structure Trims (b : Base) (address : String) : Prop where
  rest : ∃ run, address.toList = b.text ++ run ∧ ∀ c ∈ run, c = '?' ∨ c = '&'
  last : ∀ hne : b.text ≠ [], b.text.getLast hne ≠ '?' ∧ b.text.getLast hne ≠ '&'

theorem text_ofText (address : String) :
    (ofText address).text = address.toList.rdropWhile isSeparator := rfl

theorem trims_ofText (address : String) : (ofText address).Trims address where
  rest := by
    refine ⟨address.toList.rtakeWhile isSeparator, ?_, fun c hc => ?_⟩
    · rw [text_ofText, List.rdropWhile_append_rtakeWhile]
    · exact isSeparator_iff.mp (List.mem_rtakeWhile_imp hc)
  last hne := by
    have last : ¬isSeparator ((ofText address).text.getLast hne) = true :=
      List.rdropWhile_last_not isSeparator address.toList hne
    simpa only [isSeparator_iff, not_or] using last

/-- Separators at the end are taken off, however many there are. -/
theorem rdropWhile_append {text run : List Char} (separators : ∀ c ∈ run, c = '?' ∨ c = '&') :
    (text ++ run).rdropWhile isSeparator = text.rdropWhile isSeparator := by
  induction run using List.reverseRecOn with
  | nil => rw [List.append_nil]
  | append_singleton run c ih =>
    rw [← List.append_assoc,
      List.rdropWhile_concat_pos _ _ _ (isSeparator_iff.mpr (separators c (by simp)))]
    exact ih fun d hd => separators d (List.mem_append_left _ hd)

/-- **There is one base for an address.** -/
theorem trims_iff {b : Base} {address : String} : b.Trims address ↔ ofText address = b := by
  refine ⟨?_, fun h => h ▸ trims_ofText address⟩
  rintro ⟨⟨run, whole, separators⟩, last⟩
  have same : (ofText address).text = b.text := by
    rw [text_ofText, whole, rdropWhile_append separators, List.rdropWhile_eq_self_iff]
    simpa only [isSeparator_iff, not_or] using last
  cases b
  exact congrArg Base.mk same

theorem Trims.append {b : Base} {address : String} (h : b.Trims address) {run : String}
    (separators : ∀ c ∈ run.toList, c = '?' ∨ c = '&') : b.Trims (address ++ run) := by
  obtain ⟨⟨first, whole, separators'⟩, last⟩ := h
  refine ⟨⟨first ++ run.toList, ?_, fun c hc => ?_⟩, last⟩
  · rw [String.toList_append, whole, List.append_assoc]
  · exact (List.mem_append.mp hc).elim (separators' c) (separators c)

end Base

/-! ## In front of the query -/

/-- What stands in front of the first question mark of an address: the whole if there is none. -/
def beforeQuery (text : List Char) : List Char := text.takeWhile (· ≠ '?')

/-- What is appended to a base stands behind a question mark. -/
theorem beforeQuery_append (b : Base) (more : List Char) :
    beforeQuery (b.text ++ b.separator :: more) = beforeQuery b.text := by
  by_cases h : '?' ∈ b.text
  · obtain ⟨front, back, text, hfront⟩ := List.eq_append_cons_of_mem h
    have cut (more : List Char) : beforeQuery (front ++ '?' :: more) = front := by
      rw [beforeQuery, List.takeWhile_append_of_pos (ne_of_mem_of_not_mem hfront),
        List.takeWhile_cons_of_neg (by simp), List.append_nil]
    rw [text, List.append_assoc, List.cons_append, cut, cut]
  · have hsep : b.separator = '?' := if_neg (by simpa using h)
    rw [hsep, beforeQuery, List.takeWhile_append_of_pos (ne_of_mem_of_not_mem h),
      List.takeWhile_cons_of_neg (by simp), List.append_nil, beforeQuery,
      List.takeWhile_eq_self_iff.mpr (ne_of_mem_of_not_mem h)]

theorem toList_target (b : Base) (query : List Char) :
    (b.target query).toList = b.text ++ b.separator :: query := by
  rw [Base.target, String.toList_ofList]

/-- The parameter that follows an id: its key is written as it is, and its value is the id in base
    ten. -/
theorem ofText_followPair (id : LinkId) :
    Parameter.ofText (followPair id) =
      ⟨"do_redir=".toList ++ decimal id.word.toNat, "do_redir", decimalText id.word.toNat⟩ := by
  rw [Parameter.ofText, field_followPair, followPair, id.toList_text]
  rfl

/-- **A base and what is appended to it stay apart.** The base for an address is the address without
    the separators at its end, and it is the same if more of them follow. Whatever the query or the
    id, of the url that hangs off the base

    * the parameters are those of the base and then, as they are written and in the same order,
      those of the query, or the one that follows the id;
    * what stands in front of the query is that of the base;
    * the query and the id can be told from the whole. -/
theorem base_and_query_stay_apart (address : String) :
    let b : Base := .ofText address
    b.Trims address ∧
    (∀ run : String, (∀ c ∈ run.toList, c = '?' ∨ c = '&') → Base.ofText (address ++ run) = b) ∧
    (∀ query, parameters (queryOf (b.target query).toList) =
      parameters (queryOf b.text) ++ parameters query) ∧
    (∀ id, parameters (queryOf (b.permalink id).toList) =
      parameters (queryOf b.text) ++
        [⟨"do_redir=".toList ++ decimal id.word.toNat, "do_redir",
          decimalText id.word.toNat⟩]) ∧
    (∀ query, beforeQuery (b.target query).toList = beforeQuery b.text) ∧
    (∀ id, beforeQuery (b.permalink id).toList = beforeQuery b.text) ∧
    (∀ query query', b.target query = b.target query' ↔ query = query') ∧
    ∀ id id', b.permalink id = b.permalink id' ↔ id = id' := by
  intro b
  have trims : b.Trims address := Base.trims_ofText address
  refine ⟨trims, fun run separators => ?_, fun query => ?_, fun id => ?_, fun query => ?_,
    fun id => ?_, fun _ _ => b.target_inj, fun _ _ => b.permalink_inj⟩
  · exact Base.trims_iff.mp (trims.append separators)
  · rw [toList_target, parameters_target]
  · rw [parameters_permalink, ofText_followPair]
  · rw [toList_target, beforeQuery_append]
  · rw [toList_permalink, beforeQuery_append]

/-- The address has a query with a question mark in it, and so has the query that is appended. -/
theorem base_and_query_stay_apart_behind_a_query :
    let b : Base := .ofText "http://host/cgi?%61=1?2&?"
    let query := "b=%2&&b?=%FF".toList
    Base.ofText "http://host/cgi?%61=1?2&?&&?" = b ∧
      b.target query = "http://host/cgi?%61=1?2&b=%2&&b?=%FF" ∧
      parameters (queryOf (b.target query).toList) =
        [⟨"%61=1?2".toList, "a", "1?2"⟩, ⟨"b=%2".toList, "b", "%2"⟩,
          ⟨"b?=%FF".toList, "b?", "\uFFFD"⟩] ∧
      beforeQuery (b.permalink ⟨7⟩).toList = "http://host/cgi".toList := by
  intro b query
  obtain ⟨-, more, joined, -, -, front, -, -⟩ :=
    base_and_query_stay_apart "http://host/cgi?%61=1?2&?"
  refine ⟨more "&&?" (by simp), by decide +kernel, ?_, ?_⟩
  · rw [joined]
    decide +kernel
  · rw [front]
    decide +kernel

end LinkLedger.Gateway
