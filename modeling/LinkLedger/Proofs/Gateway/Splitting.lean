import LinkLedger.Proofs.Gateway.Loops

/-!
# Queries are cut without loss

A query is cut into its parameters before any of them is read, and what is kept of them is put
together again as it was written. **Neither loses anything (`queries_are_cut_without_loss`)**: what
stands between the separators of a query is there in its order, each parameter alone is read as it
is where it stands, and whichever parameters are put together are the parameters of what they make.

An escaped separator is no separator, so it is read only where it was written, and an escape that a
separator breaks off is none.
-/

set_option autoImplicit false

namespace LinkLedger.Gateway

open LinkLedger.Text

variable {query : List Char}

/-- The parameters are written as what stands between separators, unless nothing does. -/
theorem map_raw_parameters (query : List Char) :
    (parameters query).map Parameter.raw = (query.splitOn '&').filter (· ≠ []) := by
  have raw : Parameter.raw ∘ Parameter.ofText = id := rfl
  rw [parameters, List.map_map, raw, List.map_id, Form.rawFields]
  exact List.filter_congr fun field _ => by cases field <;> rfl

/-- The parameters are read as the fields of the whole query. -/
theorem map_field_parameters (query : List Char) :
    (parameters query).map Parameter.field = Form.parse query := by
  rw [parameters, List.map_map, Form.parse_eq_map]
  rfl

/-- A parameter alone is read as it is in the query. -/
theorem parse_raw {p : Parameter} (h : p ∈ parameters query) : Form.parse p.raw = [p.field] := by
  obtain ⟨⟨whole, hne⟩, -⟩ := of_mem_parameters h
  rw [Form.parse_of_not_mem whole hne]
  exact congrArg (fun q => [q.field]) (ofText_raw h)

/-- **Queries are cut and put together without loss.** The parameters of a query are what stands
    between its separators, in order and without the empty ones. They are read as the fields of the
    whole, each by itself, whether the query is taken for characters or for bytes. If some of them
    are put together again, those and no others are read, and so are those that a link keeps. -/
theorem queries_are_cut_without_loss (query : List Char) :
    (parameters query).map Parameter.raw = (query.splitOn '&').filter (· ≠ []) ∧
      (parameters query).map Parameter.field = Form.parse query ∧
      Form.parse query = Form.parseBytes (utf8 query) ∧
      (∀ p ∈ parameters query, Form.parseBytes (utf8 p.raw) = [p.field]) ∧
      (∀ ps : List Parameter, ps.Sublist (parameters query) →
        parameters (['&'].intercalate (ps.map Parameter.raw)) = ps) ∧
      ∀ value : String, (∃ p ∈ parameters query, p.hasKey makeKey = false) →
        ∃ link, linkQuery? (parameters query) value = some link ∧
          parameters link = (parameters query).filter fun p => !p.hasKey makeKey := by
  refine ⟨map_raw_parameters query, map_field_parameters query, (Form.parseBytes_utf8 query).symm,
    fun p hp => (Form.parseBytes_utf8 p.raw).trans (parse_raw hp),
    fun ps sublist => parameters_of_sublist sublist, ?_⟩
  -- Where something is kept, the value that stands in for it is not looked at.
  rintro value ⟨p, hp, other⟩
  have kept : keptParameters (parameters query) ≠ [] := by
    have mem : p.raw ∈ keptParameters (parameters query) :=
      List.mem_map_of_mem (List.mem_filter.mpr ⟨hp, by rw [other]; rfl⟩)
    exact List.ne_nil_of_mem mem
  exact ⟨_, linkQuery?_of_kept kept value, parameters_kept query⟩

/-- Escaped separators and equals signs, escapes that are broken off, bytes that are no text, and
    empty parameters. -/
theorem queries_are_cut_without_loss_among_escapes :
    let query := "&&a=1%26b&%zz&make_redir=1&c==%3D%&%FF=é%2&&".toList
    Form.parseBytes (utf8 query) =
        [⟨"a", "1&b"⟩, ⟨"%zz", ""⟩, ⟨"make_redir", "1"⟩, ⟨"c", "==%"⟩, ⟨"\uFFFD", "é%2"⟩] ∧
      parameters "make_redir=1&%FF=é%2".toList =
        [.ofText "make_redir=1".toList, .ofText "%FF=é%2".toList] ∧
      ∃ link, linkQuery? (parameters query) "1" = some link ∧
        (parameters link).map Parameter.raw =
          ["a=1%26b".toList, "%zz".toList, "c==%3D%".toList, "%FF=é%2".toList] := by
  intro query
  obtain ⟨-, fields, bytes, -, again, linked⟩ := queries_are_cut_without_loss query
  have two : [.ofText "make_redir=1".toList, .ofText "%FF=é%2".toList].Sublist
      (parameters query) := by decide +kernel
  obtain ⟨link, made, kept⟩ := linked "1" (by decide +kernel)
  refine ⟨?_, again _ two, link, made, ?_⟩
  · rw [← bytes, ← fields]
    decide +kernel
  · rw [kept]
    decide +kernel

end LinkLedger.Gateway
