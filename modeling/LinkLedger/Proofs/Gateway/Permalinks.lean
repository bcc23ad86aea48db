import Mathlib.Data.List.TakeWhile
import Mathlib.Tactic.SplitIfs
import LinkLedger.Proofs.Gateway.Handling
import LinkLedger.Proofs.Text.Fields

/-!
# What the gateway makes of a permanent link

A permanent link is the address of the gateway with one more parameter in its query. Cut apart
again, its query has the parameters of the address and then that one (`parameters_permalink`). If
the address follows no link itself, **the query of a permanent link asks to follow its id**
(`valueOf?_permalink`), and a request for `/` with that query, or for the path of the id, reaches
the handler that it is meant for (`answer_report`, `answer_link`).
-/

set_option autoImplicit false

namespace LinkLedger.Gateway

open LinkLedger.Http LinkLedger.Text

/-! ## Queries -/

/-- The query of an address: what stands behind its first question mark. -/
def queryOf (text : List Char) : List Char := (text.dropWhile (· ≠ '?')).drop 1

theorem ne_of_mem_of_not_mem {text : List Char} {d : Char} (h : d ∉ text) :
    ∀ c ∈ text, decide (c ≠ d) = true := by
  intro c hc
  have hne : c ≠ d := by
    rintro rfl
    exact h hc
  exact decide_eq_true hne

theorem queryOf_of_not_mem {text : List Char} (h : '?' ∉ text) : queryOf text = [] := by
  rw [queryOf, List.dropWhile_eq_nil_iff.mpr (ne_of_mem_of_not_mem h), List.drop_nil]

theorem queryOf_append_of_not_mem {front back : List Char} (h : '?' ∉ front) :
    queryOf (front ++ '?' :: back) = back := by
  rw [queryOf, List.dropWhile_append_of_pos (ne_of_mem_of_not_mem h),
    List.dropWhile_cons_of_neg (by simp)]
  rfl

theorem queryOf_append_of_mem {front back : List Char} (h : '?' ∈ front) :
    queryOf (front ++ back) = queryOf front ++ back := by
  obtain ⟨first, rest, rfl, hfirst⟩ := List.eq_append_cons_of_mem h
  rw [List.append_assoc, List.cons_append, queryOf_append_of_not_mem hfirst,
    queryOf_append_of_not_mem hfirst]

/-! ## Parameters -/

@[simp] theorem parameters_nil : parameters [] = [] := rfl

/-- Parameters apart by a separator are those in front of it and those behind it. -/
theorem parameters_append (front back : List Char) :
    parameters (front ++ '&' :: back) = parameters front ++ parameters back := by
  rw [parameters, Form.rawFields_append, List.map_append]
  rfl

theorem parameters_of_not_mem {text : List Char} (h : '&' ∉ text) (hne : text ≠ []) :
    parameters text = [.ofText text] := by
  rw [parameters, Form.rawFields_of_not_mem h, if_neg (by simpa using hne)]
  rfl

theorem valueOf?_append (key : String) (ps qs : List Parameter) :
    valueOf? key (ps ++ qs) = (valueOf? key ps).or (valueOf? key qs) := by
  simp [valueOf?, List.find?_append, Option.map_or]

theorem valueOf?_eq_none_iff {key : String} {ps : List Parameter} :
    valueOf? key ps = none ↔ ∀ p ∈ ps, p.field.key ≠ key := by
  simp [valueOf?, Parameter.hasKey]

/-- However the address ends, what is appended to it adds its parameters to those of the address. -/
theorem parameters_target (b : Base) (query : List Char) :
    parameters (queryOf (b.text ++ b.separator :: query)) =
      parameters (queryOf b.text) ++ parameters query := by
  by_cases h : '?' ∈ b.text
  · have hsep : b.separator = '&' := if_pos (by simpa using h)
    rw [hsep, queryOf_append_of_mem h, parameters_append]
  · have hsep : b.separator = '?' := if_neg (by simpa using h)
    rw [hsep, queryOf_append_of_not_mem h, queryOf_of_not_mem h, parameters_nil, List.nil_append]

/-! ## Permanent links -/

/-- The parameter that follows an id, as it is written. -/
def followPair (id : LinkId) : List Char := followKey.toList ++ '=' :: id.text.toList

/-- Nothing but the key, an equals sign and digits is written. -/
theorem not_mem_followPair (id : LinkId) {c : Char} (hkey : c ∉ followKey.toList) (heq : c ≠ '=')
    (hdigit : isDecimal c = false) : c ∉ followPair id := by
  simp [followPair, hkey, heq, id.not_mem_text hdigit]

/-- A key that is written as itself is read as the key, and what stands behind the equals sign as the
    value. -/
theorem field_of_pair {key : String} (hequals : '=' ∉ key.toList) (hpercent : '%' ∉ key.toList)
    (hplus : '+' ∉ key.toList) (value : List Char) :
    Form.Field.ofText (key.toList ++ '=' :: value) = ⟨key, Form.decode value⟩ := by
  have hkey := ne_of_mem_of_not_mem hequals
  have hname : Form.decode key.toList = key := by
    rw [Form.decode_of_plain hpercent hplus, String.ofList_toList]
  rw [Form.Field.ofText, List.takeWhile_append_of_pos hkey, List.dropWhile_append_of_pos hkey,
    List.takeWhile_cons_of_neg (by simp), List.dropWhile_cons_of_neg (by simp), List.append_nil,
    hname, List.drop_one, List.tail_cons]

theorem field_followPair (id : LinkId) :
    Form.Field.ofText (followPair id) = ⟨followKey, id.text⟩ := by
  have hvalue : Form.decode id.text.toList = id.text := by
    rw [Form.decode_of_plain (id.not_mem_text (by decide)) (id.not_mem_text (by decide)),
      String.ofList_toList]
  rw [followPair, field_of_pair (by decide) (by decide) (by decide), hvalue]

theorem toList_permalink (b : Base) (id : LinkId) :
    (b.permalink id).toList = b.text ++ b.separator :: followPair id := by
  rw [Base.permalink, String.toList_ofList]
  rfl

/-- What is appended to an address can be told from the whole. -/
theorem Base.target_inj (b : Base) {query query' : List Char} :
    b.target query = b.target query' ↔ query = query' := by
  simp [Base.target, String.ofList_inj]

theorem Base.permalink_inj (b : Base) {id id' : LinkId} :
    b.permalink id = b.permalink id' ↔ id = id' := by
  refine ⟨fun same => ?_, congrArg _⟩
  have text : id.text = id'.text := by simpa [Base.permalink] using same
  have read : LinkId.parse id.text = LinkId.parse id'.text := congrArg _ text
  simpa [LinkId.parse_text] using read

/-- **The query of a permanent link** has the parameters of the address and one more. -/
theorem parameters_permalink (b : Base) (id : LinkId) :
    parameters (queryOf (b.permalink id).toList) =
      parameters (queryOf b.text) ++ [.ofText (followPair id)] := by
  have hne : followPair id ≠ [] := by simp [followPair]
  rw [toList_permalink, parameters_target,
    parameters_of_not_mem (not_mem_followPair id (by decide) (by decide) (by decide)) hne]

/-- **A permanent link is followed**, unless the address follows another first. -/
theorem valueOf?_permalink {b : Base} (h : valueOf? followKey (parameters (queryOf b.text)) = none)
    (id : LinkId) :
    valueOf? followKey (parameters (queryOf (b.permalink id).toList)) = some id.text := by
  rw [parameters_permalink, valueOf?_append, h, Option.none_or]
  simp [valueOf?, Parameter.hasKey, Parameter.ofText, field_followPair]

theorem not_mem_queryOf_permalink {b : Base} (h : '#' ∉ b.text) (id : LinkId) :
    '#' ∉ queryOf (b.permalink id).toList := by
  intro hmem
  have hmem : '#' ∈ (b.permalink id).toList :=
    (List.dropWhile_suffix _).subset (List.mem_of_mem_drop hmem)
  rw [toList_permalink, List.mem_append, List.mem_cons] at hmem
  rcases hmem with hbase | hsep | hpair
  · exact h hbase
  · unfold Base.separator at hsep
    split_ifs at hsep
    · exact absurd hsep (by decide)
    · exact absurd hsep (by decide)
  · exact not_mem_followPair id (by decide) (by decide) (by decide) hpair

/-! ## Where requests go -/

section

variable {r : Request}

theorem pathAndQuery_of_slash {text : List Char} (h : r.target.toList = '/' :: text)
    (hhash : '#' ∉ text) : r.pathAndQuery = '/' :: text := by
  have hall : '#' ∉ '/' :: text := by simp [hhash]
  rw [Request.pathAndQuery, h]
  exact List.takeWhile_eq_self_iff.mpr (ne_of_mem_of_not_mem hall)

theorem path_of_plain {text : List Char} (h : r.target.toList = '/' :: text) (hmark : '?' ∉ text)
    (hhash : '#' ∉ text) : r.path = '/' :: text := by
  have hall : '?' ∉ '/' :: text := by simp [hmark]
  rw [Request.path, pathAndQuery_of_slash h hhash]
  exact List.takeWhile_eq_self_iff.mpr (ne_of_mem_of_not_mem hall)

theorem path_query_of_report {query : List Char} (h : r.target.toList = '/' :: '?' :: query)
    (hhash : '#' ∉ query) : r.path = ['/'] ∧ r.query = query := by
  have hall : '#' ∉ '?' :: query := by simp [hhash]
  rw [Request.path, Request.query, pathAndQuery_of_slash h hall]
  exact ⟨rfl, rfl⟩

/-- Any query without a fragment can be asked with. -/
theorem AsksReport.of_text {query : String} (hhash : '#' ∉ query.toList)
    (headers : List (String × String)) (body : ByteArray) :
    AsksReport ⟨.get, "/?" ++ query, headers, body⟩ query.toList := by
  obtain ⟨path, same⟩ := path_query_of_report (r := ⟨.get, "/?" ++ query, headers, body⟩)
    (by simp) hhash
  exact ⟨path, rfl, same⟩

theorem ofPath?_link {segment : List Char} (hne : segment ≠ []) (hslash : '/' ∉ segment) :
    Route.ofPath? (Route.linksPath.toList ++ '/' :: segment) = some (.link segment) := by
  have hfront : Route.linksPath.toList ++ '/' :: segment =
      (Route.linksPath.toList ++ ['/']) ++ segment := by simp
  -- The path is longer than that of every other route.
  have hlong : ∀ path : List Char, path.length ≤ Route.linksPath.toList.length →
      (Route.linksPath.toList ++ ['/']) ++ segment ≠ path := by
    rintro path hshort rfl
    simp only [List.length_append, List.length_singleton] at hshort
    omega
  unfold Route.ofPath?
  rw [hfront, if_neg (hlong _ (by decide)), if_neg (hlong _ (by decide)),
    if_neg (hlong _ (by decide))]
  simp only [List.take_left, List.drop_left]
  exact if_pos ⟨trivial, hne, hslash⟩

theorem answer_report {base : Base} (hmethod : r.method = .get) (hpath : r.path = ['/'])
    {id : LinkId} (hfollow : valueOf? followKey (parameters r.query) = some id.text) :
    answer base r = follow id := by
  rw [answer_of_asksToFollow base ⟨hpath, .inl hmethod, hfollow⟩, withId, id.parse_text]

theorem answer_link {base : Base} (hmethod : r.method = .get) {id : LinkId}
    (hpath : r.path = Route.linksPath.toList ++ '/' :: id.text.toList) :
    answer base r = display id := by
  have hne : id.text.toList ≠ [] := by
    rw [id.toList_text]
    exact decimal_ne_nil _
  have hsegment : String.fromUTF8? (percentDecode id.text.toList).toByteArray = some id.text := by
    rw [toByteArray_percentDecode_of_plain (id.not_mem_text (by decide)), String.ofList_toList,
      String.fromUTF8?, dif_pos id.text.isValidUTF8]
    exact congrArg some (String.toByteArray_inj.mp rfl)
  simp [answer, hpath, ofPath?_link hne (id.not_mem_text (by decide)), hmethod, Route.methods,
    answerOn, answerSegment, hsegment, withId, id.parse_text]

end

end LinkLedger.Gateway
