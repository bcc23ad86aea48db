import Mathlib.Data.List.Induction
import Mathlib.Data.List.Nodup
import LinkLedger.Store.Ledger

/-!
# Coherent ledgers

`Ledger.Coherent l n`: ids and urls are in bijection, every id is below `n`, and the next id is `n`.
The two look-ups of a coherent ledger say exactly what is written down (`idOf?_eq_some_iff`,
`Coherent.get?_eq_some_iff`), and a url that is not there can be added as long as an id is left
(`Coherent.push`).

`n` is a number and the next id is a word. The last word can still be given out, so `n` may be as
large as `idCount`, in which case the word has come round to zero.
-/

set_option autoImplicit false

namespace LinkLedger

/-! ## Ids and numbers -/

/-- The id with a number, counted round if there is no such id. -/
def LinkId.ofNat (n : Nat) : LinkId := ⟨UInt64.ofNat n⟩

theorem LinkId.toNat_ofNat {n : Nat} (h : n < idCount) : (LinkId.ofNat n).word.toNat = n := by
  simp only [LinkId.ofNat, UInt64.toNat_ofNat']
  exact Nat.mod_eq_of_lt h

theorem LinkId.ofNat_toNat (id : LinkId) : LinkId.ofNat id.word.toNat = id := by
  cases id
  simp [LinkId.ofNat]

theorem LinkId.ofNat_succ (n : Nat) : (⟨(LinkId.ofNat n).word + 1⟩ : LinkId) = .ofNat (n + 1) := by
  simp [LinkId.ofNat, UInt64.ofNat_add]

theorem LinkId.ofNat_inj {m n : Nat} (hm : m < idCount) (hn : n < idCount) :
    LinkId.ofNat m = LinkId.ofNat n ↔ m = n := by
  constructor
  · intro h
    rw [← LinkId.toNat_ofNat hm, h, LinkId.toNat_ofNat hn]
  · rintro rfl
    rfl

namespace Ledger

/-! ## Look-ups -/

/-- The urls that are written down, oldest first. -/
def urls (l : Ledger) : List String := l.links.map Link.url

theorem mem_urls {l : Ledger} {url : String} : url ∈ l.urls ↔ ∃ id, ⟨id, url⟩ ∈ l.links := by
  constructor
  · intro h
    obtain ⟨⟨id, _⟩, hmem, rfl⟩ := List.mem_map.mp h
    exact ⟨id, hmem⟩
  · rintro ⟨id, hmem⟩
    exact List.mem_map_of_mem hmem

theorem mem_of_idOf?_eq_some {l : Ledger} {url : String} {id : LinkId}
    (h : l.idOf? url = some id) : ⟨id, url⟩ ∈ l.links := by
  obtain ⟨⟨id', url'⟩, hfind, rfl⟩ := Option.map_eq_some_iff.mp h
  have hurl : url' = url := by simpa using List.find?_some hfind
  exact hurl ▸ List.mem_of_find?_eq_some hfind

theorem idOf?_eq_none_iff {l : Ledger} {url : String} : l.idOf? url = none ↔ url ∉ l.urls := by
  simp [idOf?, urls]

theorem idOf?_eq_some_iff {l : Ledger} (h : l.urls.Nodup) {url : String} {id : LinkId} :
    l.idOf? url = some id ↔ ⟨id, url⟩ ∈ l.links := by
  refine ⟨mem_of_idOf?_eq_some, fun hmem => ?_⟩
  cases hfound : l.idOf? url with
  | none => exact absurd (mem_urls.mpr ⟨id, hmem⟩) (idOf?_eq_none_iff.mp hfound)
  | some id' =>
    have hsame := List.inj_on_of_nodup_map h (mem_of_idOf?_eq_some hfound) hmem rfl
    exact congrArg some (congrArg Link.id hsame)

theorem mem_of_get?_eq_some {l : Ledger} {id : LinkId} {link : Link}
    (h : l.get? id = some link) : link ∈ l.links ∧ link.id = id :=
  ⟨List.mem_reverse.mp (List.mem_of_find?_eq_some h), by simpa using List.find?_some h⟩

theorem get?_eq_none_iff {l : Ledger} {id : LinkId} :
    l.get? id = none ↔ ∀ link ∈ l.links, link.id ≠ id := by
  simp [get?]

/-! ## Coherence -/

/-- Ids and urls are in bijection, and the ids are used up to `n`, which comes next. -/
structure Coherent (l : Ledger) (n : Nat) : Prop where
  next_eq : l.next = .ofNat n
  le_count : n ≤ idCount
  ids_lt : ∀ link ∈ l.links, link.id.word.toNat < n
  ids_nodup : (l.links.map Link.id).Nodup
  urls_nodup : l.urls.Nodup

theorem coherent_empty : empty.Coherent 1 where
  next_eq := rfl
  le_count := by decide
  ids_lt := by simp [empty]
  ids_nodup := by simp [empty]
  urls_nodup := by simp [empty, urls]

namespace Coherent

variable {l : Ledger} {n : Nat}

theorem id_unique (h : l.Coherent n) {a b : LinkId} {url : String} (ha : ⟨a, url⟩ ∈ l.links)
    (hb : ⟨b, url⟩ ∈ l.links) : a = b :=
  congrArg Link.id (List.inj_on_of_nodup_map h.urls_nodup ha hb rfl)

theorem url_unique (h : l.Coherent n) {id : LinkId} {u v : String} (hu : ⟨id, u⟩ ∈ l.links)
    (hv : ⟨id, v⟩ ∈ l.links) : u = v :=
  congrArg Link.url (List.inj_on_of_nodup_map h.ids_nodup hu hv rfl)

theorem get?_eq_some_iff (h : l.Coherent n) {id : LinkId} {url : String} :
    l.get? id = some ⟨id, url⟩ ↔ ⟨id, url⟩ ∈ l.links := by
  refine ⟨fun hget => (mem_of_get?_eq_some hget).1, fun hmem => ?_⟩
  cases hfound : l.get? id with
  | none => exact absurd rfl (get?_eq_none_iff.mp hfound _ hmem)
  | some link =>
    obtain ⟨hlink, hid⟩ := mem_of_get?_eq_some hfound
    exact congrArg some (List.inj_on_of_nodup_map h.ids_nodup hlink hmem hid)

/-- One more url, while an id is left, keeps a ledger coherent. -/
theorem push (h : l.Coherent n) {url : String} (hnew : url ∉ l.urls) (room : n < idCount) :
    (l.push url).Coherent (n + 1) := by
  have hnext : l.next.word.toNat = n := by rw [h.next_eq, LinkId.toNat_ofNat room]
  refine ⟨?_, room, ?_, ?_, ?_⟩
  · simp only [Ledger.push, h.next_eq, LinkId.ofNat_succ]
  · intro link hlink
    rcases List.mem_append.mp hlink with hold | hnew
    · exact Nat.lt_succ_of_lt (h.ids_lt link hold)
    · rw [List.mem_singleton.mp hnew, hnext]
      exact Nat.lt_succ_self n
  · -- Every id so far is below `n`, so the next one is new.
    have hfresh : l.next ∉ l.links.map Link.id := by
      intro hused
      obtain ⟨link, hlink, hid⟩ := List.mem_map.mp hused
      have hlt := h.ids_lt link hlink
      rw [hid, hnext] at hlt
      exact Nat.lt_irrefl n hlt
    simpa [Ledger.push] using h.ids_nodup.concat hfresh
  · simpa [Ledger.push, urls] using h.urls_nodup.concat hnew

end Coherent

/-! ## Several urls in a row -/

/-- The ledger with more urls, each under the next id. -/
def pushAll (l : Ledger) (more : List String) : Ledger := more.foldl Ledger.push l

@[simp] theorem pushAll_nil (l : Ledger) : l.pushAll [] = l := rfl

@[simp] theorem pushAll_concat (l : Ledger) (more : List String) (url : String) :
    l.pushAll (more ++ [url]) = (l.pushAll more).push url := by
  simp [pushAll]

@[simp] theorem urls_pushAll (l : Ledger) (more : List String) :
    (l.pushAll more).urls = l.urls ++ more := by
  induction more using List.reverseRecOn with
  | nil => simp
  | append_singleton more url ih =>
    rw [pushAll_concat, ← List.append_assoc, ← ih]
    simp [urls, Ledger.push]

theorem next_pushAll {l : Ledger} {n : Nat} (h : l.next = .ofNat n) (more : List String) :
    (l.pushAll more).next = .ofNat (n + more.length) := by
  induction more using List.reverseRecOn with
  | nil => exact h
  | append_singleton more url ih =>
    rw [pushAll_concat, List.length_append, List.length_singleton, ← Nat.add_assoc,
      ← LinkId.ofNat_succ, ← ih]
    rfl

/-- The urls get the ids from the next one on, in order. -/
theorem links_pushAll {l : Ledger} {n : Nat} (h : l.next = .ofNat n) (more : List String) :
    (l.pushAll more).links = l.links ++ more.mapIdx fun i url => ⟨.ofNat (n + i), url⟩ := by
  induction more using List.reverseRecOn with
  | nil => simp
  | append_singleton more url ih =>
    rw [pushAll_concat, List.mapIdx_concat, ← List.append_assoc, ← ih, ← next_pushAll h more]
    rfl

theorem Coherent.pushAll {l : Ledger} {n : Nat} (h : l.Coherent n) {more : List String}
    (hnodup : more.Nodup) (hnew : ∀ url ∈ more, url ∉ l.urls) (room : n + more.length ≤ idCount) :
    (l.pushAll more).Coherent (n + more.length) := by
  induction more using List.reverseRecOn with
  | nil => exact h
  | append_singleton more url ih =>
    rw [List.length_append, List.length_singleton, ← Nat.add_assoc] at room ⊢
    obtain ⟨hmore, -, hapart⟩ := List.nodup_append.mp hnodup
    rw [pushAll_concat]
    refine (ih hmore (fun u hu => hnew u (by simp [hu])) (by omega)).push ?_ (by omega)
    rw [urls_pushAll, List.mem_append, not_or]
    exact ⟨hnew url (by simp), fun hmem => hapart url hmem url (by simp) rfl⟩

end Ledger

end LinkLedger
