import LinkLedger.Proofs.Gateway.Following
import LinkLedger.Proofs.Gateway.Writing
import LinkLedger.Proofs.Json.Records

/-!
# Links as JSON

A link is read from every spelling of it (`Link.SpelledBy`), and what is written for it is one. A
url that a body spells is the url that the desk makes a link to (`answer_of_sendsJson`), and the
body of a good response tells what the desk said (`Tells.of_respond`).

**`links_are_read_as_written`: JSON changes no id, no url and no permanent link**, on the way in or
on the way out.
-/

set_option autoImplicit false

namespace LinkLedger

open LinkLedger.Http LinkLedger.Json LinkLedger.Text

/-! ## Links -/

/-- A text spells a link, as an object or as an array. -/
def Link.SpelledBy (link : Link) (text : String) : Prop :=
  Link.shape.Spells [.word link.id.word, .text link.url] text

theorem Link.ofJson_of_spelledBy {link : Link} {text : String} (h : link.SpelledBy text) :
    Link.ofJson text = .ok link := by
  rw [ofJson, readWhole_of_spells h]
  rfl

theorem Link.spelledBy_json (link : Link) : link.SpelledBy link.json := by
  have spells := @spells_writeObject "PermalinkEntry"
    [("id", .word link.id.word), ("url", .text link.url)] (List.cons_ne_nil _ _) (by simp)
  exact spells

def Link.arrayJson (link : Link) : String :=
  String.ofList ('[' :: link.id.text.toList ++ ',' :: writeString link.url ++ [']'])

theorem Link.spelledBy_arrayJson (link : Link) : link.SpelledBy link.arrayJson := by
  have id : SpellsField (.word link.id.word) (decimal link.id.word.toNat) := .word _
  have url : SpellsField (.text link.url) (writeString link.url) :=
    .text (spellsString_writeString _)
  refine ⟨[], _, [], ?_, blanks_nil,
    .array rfl (.more blanks_nil id blanks_nil (.last blanks_nil url)) blanks_nil, blanks_nil⟩
  simp [arrayJson, LinkId.toList_text]

namespace Gateway

/-! ## Requests -/

/-- A request that sends JSON to where links are made. -/
structure SendsJson (r : Request) (text : String) : Prop where
  path : r.path = Route.linksPath.toList
  method : r.method = .post
  json : r.saysJson = true
  body : r.body = text.toByteArray

/-- **The url that a body spells is the one that the desk is asked for**, unless there is too much of
    the body to be read. -/
theorem answer_of_sendsJson {base : Base} {r : Request} {text url : String} (h : SendsJson r text)
    (spells : requestShape.Spells [.text url] text) :
    answer base r =
      if r.body.size ≤ maxBodyBytes then
        (Desk.make url).bind fun
          | .error refusal => refuse refusal
          | .ok id => .done (.created ⟨id, url⟩ (base.permalink id))
      else .done .bodyTooLarge := by
  have route : Route.ofPath? r.path = some .links := by
    rw [h.path]
    decide
  have method : r.method ∈ Route.links.methods := by simp [h.method, Route.methods]
  have read : readRequest r.body = .ok url := by
    rw [readRequest, h.body, pieces_toByteArray, readWhole_of_spells spells]
    rfl
  simp only [answer, route, if_pos method, answerOn, answerPost, h.json, read, Bool.not_true,
    Bool.false_eq_true, if_false]
  by_cases short : r.body.size ≤ maxBodyBytes
  · rw [if_pos short, if_neg (Nat.not_lt.mpr short)]
    rfl
  · rw [if_neg short, if_pos (Nat.not_le.mp short)]

/-! ## Responses -/

def answerShape : Shape :=
  ⟨"PermalinkResponse", [("id", .word), ("url", .text), ("permalink", .text)]⟩

/-- Reads a link and the url that follows it from JSON. -/
def readAnswer (text : String) : Except Located (Link × String) := do
  match ← answerShape.readWhole (piecesOf text) with
  | [.word id, .text url, .text permalink] => return (⟨⟨id⟩, url⟩, permalink)
  | _ => throw ⟨.top, .missingField "id"⟩

theorem readAnswer_linkJson (link : Link) (permalink : String) :
    readAnswer (linkJson link permalink) = .ok (link, permalink) := by
  have spells := @spells_writeObject "PermalinkResponse"
    [("id", .word link.id.word), ("url", .text link.url), ("permalink", .text permalink)]
    (List.cons_ne_nil _ _) (by simp)
  have read : answerShape.readWhole (piecesOf (linkJson link permalink)) = .ok _ :=
    readWhole_of_spells spells
  rw [readAnswer, read]
  rfl

/-- What the body of a good response tells, and where that comes from. -/
inductive Tells {σ : Type} (store : Store σ) (s : σ) (base : Base) (r : Request) (body : String) :
    Prop
  /-- Nothing was asked for but whether all is well. -/
  | health (asked : answer base r = .done .healthy) : Tells store s base r body
  /-- Where the id leads that was asked for. -/
  | shown {id : LinkId} {url : String} (asked : answer base r = display id)
    (found : ((Desk.resolve id).run store s).value = .ok url)
    (told : Link.ofJson body = .ok ⟨id, url⟩) : Tells store s base r body
  /-- The link that was asked for, and the url that follows it. -/
  | made {id : LinkId} {url : String} {kind : Link → String → Reply}
    (asked : answer base r = make base url kind)
    (given : ((Desk.make url).run store s).value = .ok id)
    (told : readAnswer body = .ok (⟨id, url⟩, base.permalink id)) : Tells store s base r body

/-- Whether a response has what was asked for: status 200 or 201. -/
def IsGood (response : Response) : Prop := response.status = .ok ∨ response.status = .created

theorem not_isGood_of_refused (refusal : Refusal) : ¬IsGood (Reply.refused refusal).response := by
  cases refusal <;> simp [IsGood, Reply.response, refusalResponse, Response.json]

theorem Reply.eq_healthy_of_isGood {reply : Reply} (settled : reply.isSettled = true)
    (good : IsGood reply.response) : reply = .healthy := by
  cases reply with
  | healthy => rfl
  | unreadable problem =>
    simp only [IsGood, response, unreadableResponse] at good
    split at good <;> simp [Response.plain] at good
  | linked | created | shown | redirect | refused => cases settled
  | _ => simp [IsGood, response, Response.json, Response.plain, Response.empty] at good

section

variable {σ : Type} {store : Store σ} {s : σ} {base : Base} {r : Request}

theorem Tells.of_make {url : String} {kind : Link → String → Reply} (gives : LinkReply kind)
    (asked : answer base r = make base url kind)
    (good : IsGood ((answer base r).run store s).value.response) :
    Tells store s base r ((answer base r).run store s).value.response.body := by
  rw [asked, (make_run base url kind store s).1] at good ⊢
  cases given : ((Desk.make url).run store s).value with
  | error refusal =>
    rw [given] at good
    exact absurd good (not_isGood_of_refused refusal)
  | ok id =>
    refine .made asked given ?_
    rw [madeReply, (gives.carries ⟨id, url⟩ (base.permalink id)).2, readAnswer_linkJson]

theorem Tells.of_display {id : LinkId} (asked : answer base r = display id)
    (good : IsGood ((answer base r).run store s).value.response) :
    Tells store s base r ((answer base r).run store s).value.response.body := by
  have resolved := Desk.resolve_run_value store s id
  rw [asked, display_run_value] at good ⊢
  generalize (store.answer (.get id) s).1 = got at resolved good ⊢
  rcases got with failure | _ | link
  · exact absurd good (not_isGood_of_refused _)
  · exact absurd good (not_isGood_of_refused _)
  · exact .shown asked resolved (Link.ofJson_of_spelledBy (Link.spelledBy_json _))

theorem not_isGood_of_follow {id : LinkId} (asked : answer base r = follow id) :
    ¬IsGood ((answer base r).run store s).value.response := by
  intro good
  rw [asked, follow_run_value] at good
  generalize (store.answer (.get id) s).1 = got at good
  rcases got with failure | _ | link
  · exact not_isGood_of_refused _ good
  · exact not_isGood_of_refused _ good
  · simp only [followed] at good
    split at good
    · simp [IsGood, Reply.response, Response.empty] at good
    · exact not_isGood_of_refused _ good

/-- **A good response tells what the desk said.** -/
theorem Tells.of_respond (whole : r.method ≠ .head)
    (good : IsGood ((respond base r).run store s).value) :
    Tells store s base r ((respond base r).run store s).value.body := by
  rw [respond_run, if_neg whole] at good ⊢
  have handled := Handling.of_answer base r
  obtain ⟨p, asked⟩ : ∃ p, answer base r = p := ⟨_, rfl⟩
  rw [asked] at handled
  cases handled with
  | settled plain =>
    rw [asked] at good
    obtain rfl := Reply.eq_healthy_of_isGood plain good
    exact .health asked
  | following => exact absurd good (not_isGood_of_follow asked)
  | displaying => exact .of_display asked good
  | linking => exact .of_make .linked asked good
  | creating => exact .of_make .created asked good

end

/-- **JSON changes no id, no url and no permanent link.**

    * What is written for a link is read as that link, and so is the array of its id and its url.
    * Every spelling of a link is read as that link, whatever the order of its members, the blanks,
      the escapes and the members beside those of a link.
    * What has been read can be written and read once more, with the same link and the same text.
    * The url that the body of a request spells is the one that the desk is asked for, before
      anything else is done, unless there is too much of the body to be read.
    * The body of a good response tells the id and the url that the desk gave, and the permanent
      link of that id. -/
theorem links_are_read_as_written :
    (∀ link : Link, Link.ofJson link.json = .ok link ∧ Link.ofJson link.arrayJson = .ok link) ∧
    (∀ (link : Link) (text : String), link.SpelledBy text → Link.ofJson text = .ok link) ∧
    (∀ (text : String) (link : Link), Link.ofJson text = .ok link →
      ∃ again, Link.ofJson link.json = .ok again ∧ again = link ∧ again.json = link.json) ∧
    (∀ (base : Base) (r : Request) (text url : String), SendsJson r text →
      requestShape.Spells [.text url] text → answer base r =
        if r.body.size ≤ maxBodyBytes then
          (Desk.make url).bind fun
            | .error refusal => refuse refusal
            | .ok id => .done (.created ⟨id, url⟩ (base.permalink id))
        else .done .bodyTooLarge) ∧
    ∀ (σ : Type) (store : Store σ) (s : σ) (base : Base) (r : Request), r.method ≠ .head →
      IsGood ((respond base r).run store s).value →
      Tells store s base r ((respond base r).run store s).value.body := by
  have written : ∀ link : Link, Link.ofJson link.json = .ok link :=
    fun link => Link.ofJson_of_spelledBy link.spelledBy_json
  refine ⟨fun link => ⟨written link, ?_⟩, fun link text => Link.ofJson_of_spelledBy, ?_, ?_, ?_⟩
  · exact Link.ofJson_of_spelledBy link.spelledBy_arrayJson
  · intro text link _
    exact ⟨link, written link, rfl, rfl⟩
  · intro base r text url sends spells
    exact answer_of_sendsJson sends spells
  · intro σ store s base r whole good
    exact Tells.of_respond whole good

/-- A clef as a surrogate pair and a slash behind a backslash, in members out of order, of which one
    has an escape in its key and one is unknown; the largest id there is; and the same url as the
    only element of an array. -/
theorem links_are_read_as_written_in_escapes :
    let base : Base := .ofText "http://host/"
    let link : Link := ⟨⟨18446744073709551615⟩, "𝄞/"⟩
    let text := "\x7b\"x\":[null], \"ur\\u006C\" :\"\\uD834\\udd1e\\/\"" ++
      ",\"id\":18446744073709551615\x7d"
    let sending : Request := ⟨.post, "/v1/permalinks", [("Content-Type", "application/json")],
      "[\"\\uD834\\udd1e\\/\"]".toByteArray⟩
    let asking : Request := ⟨.get, "/v1/permalinks/1", [], .empty⟩
    let ledger := Ledger.empty.push link.url
    Link.ofJson text = .ok link ∧ (∃ again, Link.ofJson link.json = .ok again ∧ again = link) ∧
      (answer base sending = (Desk.make link.url).bind fun
        | .error refusal => refuse refusal
        | .ok id => .done (.created ⟨id, link.url⟩ (base.permalink id))) ∧
      Tells Ledger.store ledger base asking
        ((respond base asking).run Ledger.store ledger).value.body := by
  intro base link text sending asking ledger
  have clef : SpellsChar '𝄞' ("\\uD834".toList ++ "\\udd1e".toList) :=
    .pair (by decide) ⟨rfl, List.all_eq_true.mp rfl, by decide⟩
      ⟨rfl, List.all_eq_true.mp rfl, by decide⟩
  have slash : SpellsChar '/' ['\\', '/'] := .short (by decide)
  have url : SpellsString "𝄞/" _ := .intro (.cons clef (.cons slash .nil))
  have u : SpellsChar 'u' ['u'] := .plain (by decide) (by decide) (by decide)
  have r : SpellsChar 'r' ['r'] := .plain (by decide) (by decide) (by decide)
  have l : SpellsChar 'l' "\\u006C".toList := .unit ⟨rfl, List.all_eq_true.mp rfl, by decide⟩
  have key : SpellsString "url" _ := .intro (.cons u (.cons r (.cons l .nil)))
  have null : IsValue _ := .full (.last .list blanks_nil (.plain .wordNull) blanks_nil)
  have space : Blanks [' '] := by simp [Blanks]
  have unknown : SpellsMember Link.shape [] _ :=
    .other (by decide) (spellsString_writeString "x") blanks_nil blanks_nil null
  have first : SpellsMember Link.shape [("url", .text link.url)] _ :=
    .field rfl key space blanks_nil (.text url)
  have second : SpellsMember Link.shape [("id", .word link.id.word)] _ :=
    .field rfl (spellsString_writeString "id") blanks_nil blanks_nil (.word _)
  have members : SpellsMembers Link.shape _ _ :=
    .more blanks_nil unknown blanks_nil
      (.more space first blanks_nil (.last blanks_nil second blanks_nil))
  have object : link.SpelledBy text :=
    ⟨[], _, [], by decide +kernel, blanks_nil, .object (by simp) (by decide) members, blanks_nil⟩
  have array : requestShape.Spells [.text link.url] "[\"\\uD834\\udd1e\\/\"]" :=
    ⟨[], _, [], by decide +kernel, blanks_nil,
      .array rfl (.last blanks_nil (.text url)) blanks_nil, blanks_nil⟩
  have sends : SendsJson sending "[\"\\uD834\\udd1e\\/\"]" := ⟨by decide, rfl, by decide, rfl⟩
  obtain ⟨written, spelled, again, sent, told⟩ := links_are_read_as_written
  have read := spelled link text object
  obtain ⟨link', read', same, -⟩ := again text link read
  have short : sending.body.size ≤ maxBodyBytes := by decide
  exact ⟨read, ⟨link', read', same⟩, (sent base sending _ _ sends array).trans (if_pos short),
    told _ _ _ base asking (by decide) (.inl (by decide +kernel))⟩

end Gateway

end LinkLedger
