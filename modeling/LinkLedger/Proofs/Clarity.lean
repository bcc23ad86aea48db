import LinkLedger.Crowd
import LinkLedger.Proofs.Store.Faults
import LinkLedger.Proofs.Text.Controls
import LinkLedger.Proofs.Text.Plain

/-!
# Clear reports

An event is clear if no control stands in it. What a program reports, it has from two sides: from
whoever asks, and from the store. `Program.Clear` says that a program reports clear events as long as
the store answers clearly (`Call.Clear`), and that it inserts accepted urls only; `Store.Clear` says
that a store answers clearly as long as nothing else is inserted. **Together they report clear
events only**, one program alone (`Program.Clear.run`) or many in turns (`Crowd.clear_run`).
-/

set_option autoImplicit false

namespace LinkLedger

variable {α β σ : Type}

/-! ## Clear events -/

/-- The texts of an event that were not written by the program itself. -/
def Event.foreign : Event → List String
  | .opening backend => [backend]
  | .serving address base => [address, base]
  | .stopped | .resolving _ | .selecting _ | .unknown _ => []
  | .resolved _ url | .reused _ url | .created _ url | .raceLost url | .winnerMissing url
  | .redirecting _ url => [url]
  | .storeFailed failure => [failure.message]

theorem LinkId.noControl_text (id : LinkId) : NoControl id.text.toList := by
  rw [toList_text]
  exact noControl_decimal _

theorem Event.noControl_message (e : Event) : NoControl e.message.toList := by
  unfold message
  split <;> decide

/-- The words of the program are clear, so only the others have to be looked at. -/
theorem Event.clear_of_foreign {e : Event} (h : ∀ text ∈ e.foreign, NoControl text.toList) :
    e.Clear := by
  refine ⟨e.noControl_message, fun f hf => ?_⟩
  have names : ∀ name ∈ ["storage_backend", "listen_addr", "base_url", "id", "url", "error"],
      NoControl name.toList := by decide
  cases e with
  | opening backend =>
    obtain rfl := List.mem_singleton.mp hf
    exact ⟨names _ (by simp), h _ (by simp [foreign])⟩
  | serving address base =>
    simp only [fields, List.mem_cons, List.not_mem_nil, or_false] at hf
    rcases hf with rfl | rfl
    · exact ⟨names _ (by simp), h _ (by simp [foreign])⟩
    · exact ⟨names _ (by simp), h _ (by simp [foreign])⟩
  | stopped => cases hf
  | resolving id | selecting id | unknown id =>
    obtain rfl := List.mem_singleton.mp hf
    exact ⟨names _ (by simp [Field.ofId]), id.noControl_text⟩
  | resolved id url | reused id url | created id url | redirecting id url =>
    simp only [fields, List.mem_cons, List.not_mem_nil, or_false] at hf
    rcases hf with rfl | rfl
    · exact ⟨names _ (by simp [Field.ofId]), id.noControl_text⟩
    · exact ⟨names _ (by simp), h _ (by simp [foreign])⟩
  | raceLost url | winnerMissing url =>
    obtain rfl := List.mem_singleton.mp hf
    exact ⟨names _ (by simp), h _ (by simp [foreign])⟩
  | storeFailed failure =>
    obtain rfl := List.mem_singleton.mp hf
    exact ⟨names _ (by simp), h _ (by simp [foreign])⟩

def StoreFailure.Clear (failure : StoreFailure) : Prop := NoControl failure.detail.toList

theorem StoreFailure.noControl_message_iff {failure : StoreFailure} :
    NoControl failure.message.toList ↔ failure.Clear := by
  have phrase : NoControl failure.kind.phrase.toList := by
    cases failure.kind <;> decide
  have colon : NoControl ": ".toList := by decide
  show NoControl (failure.kind.phrase ++ ": " ++ failure.detail).toList ↔ _
  simp only [noControl_text_append, phrase, colon, true_and]
  rfl

/-! ## Clear answers -/

/-- A question that inserts nothing but an accepted url. -/
def Call.IsFit : Call → Prop
  | .insert url => checkUrl url = .ok ()
  | .findByUrl _ | .get _ => True

/-- An answer with nothing in it that could put a control into an event. -/
def Call.Clear : (call : Call) → call.Outcome → Prop
  | .findByUrl _, .error failure | .insert _, .error failure | .get _, .error failure =>
    failure.Clear
  | .get _, .ok (some link) => NoControl link.url.toList
  | .findByUrl _, .ok _ | .insert _, .ok _ | .get _, .ok none => True

/-- While `P` holds of its state, the store answers clearly, and fit questions do not break `P`. -/
structure Store.Clear (store : Store σ) (P : σ → Prop) : Prop where
  answer : ∀ {call : Call} {s}, call.IsFit → P s → call.Clear (store.answer call s).1
  keeps : ∀ {call : Call} {s}, call.IsFit → P s → P (store.answer call s).2
  remarks : ∀ call s, ∀ e ∈ store.remarks call s, e.Clear

/-- A plan whose failures are in clear words. -/
def FaultPlan.Clear (plan : FaultPlan) : Prop :=
  ∀ kind failure, .fail failure ∈ plan.queue kind → failure.Clear

theorem FaultPlan.clear_none : none.Clear := by
  intro kind failure h
  cases kind <;> cases h

theorem FaultPlan.queue_withQueue (plan : FaultPlan) (kind kind' : CallKind) (queue : List Fault) :
    (plan.withQueue kind queue).queue kind' = if kind = kind' then queue else plan.queue kind' := by
  cases kind <;> cases kind' <;> rfl

theorem FaultPlan.Clear.withQueue {plan : FaultPlan} (h : plan.Clear) {kind : CallKind}
    {queue : List Fault} (clear : ∀ failure, .fail failure ∈ queue → failure.Clear) :
    (plan.withQueue kind queue).Clear := by
  intro kind' failure hmem
  rw [plan.queue_withQueue] at hmem
  split at hmem
  · exact clear failure hmem
  · exact h kind' failure hmem

/-- **A layer of faults answers clearly** if its own failures are in clear words. -/
theorem Store.Clear.faulty {store : Store σ} {P : σ → Prop} (h : store.Clear P) :
    store.faulty.Clear fun state => P state.1 ∧ state.2.Clear where
  answer := by
    rintro call ⟨s, plan⟩ fit ⟨good, clear⟩
    simp only [Store.faulty]
    cases hqueue : plan.queue call.kind with
    | nil => exact h.answer fit good
    | cons fault later =>
      cases fault with
      | pass => exact h.answer fit good
      | fail failure =>
        have said : failure.Clear := clear call.kind failure (hqueue ▸ List.mem_cons_self)
        cases call <;> exact said
      | miss =>
        cases call with
        | insert url => exact h.answer fit good
        | findByUrl url => exact trivial
        | get id => exact trivial
  keeps := by
    rintro call ⟨s, plan⟩ fit ⟨good, clear⟩
    simp only [Store.faulty]
    cases hqueue : plan.queue call.kind with
    | nil => exact ⟨h.keeps fit good, clear⟩
    | cons fault later =>
      refine ⟨?_, clear.withQueue fun failure hmem => ?_⟩
      · cases fault with
        | pass => exact h.keeps fit good
        | fail failure => exact good
        | miss =>
          cases call with
          | insert url => exact h.keeps fit good
          | findByUrl url => exact good
          | get id => exact good
      · exact clear call.kind failure (hqueue ▸ List.mem_cons_of_mem fault hmem)
  remarks call state e he := h.remarks call state.1 e (store.remarks_of_faulty call he)

/-! ## Programs -/

namespace Program

/-- As long as the program is answered clearly, it reports clear events, its questions are fit, and
    its value satisfies `Q`. -/
def Clear (Q : α → Prop) : Program α → Prop
  | done a => Q a
  | report e next => e.Clear ∧ next.Clear Q
  | ask call next => call.IsFit ∧ ∀ answer, call.Clear answer → (next answer).Clear Q

theorem Clear.mono {Q R : α → Prop} {p : Program α} (h : p.Clear Q) (imp : ∀ a, Q a → R a) :
    p.Clear R := by
  induction p with
  | done a => exact imp a h
  | report e next ih => exact ⟨h.1, ih h.2⟩
  | ask call next ih => exact ⟨h.1, fun answer clear => ih answer (h.2 answer clear)⟩

theorem Clear.bind {Q : α → Prop} {R : β → Prop} {p : Program α} (h : p.Clear Q)
    {f : α → Program β} (rest : ∀ a, Q a → (f a).Clear R) : (p.bind f).Clear R := by
  induction p with
  | done a => exact rest a h
  | report e next ih => exact ⟨h.1, ih h.2⟩
  | ask call next ih => exact ⟨h.1, fun answer clear => ih answer (h.2 answer clear)⟩

/-- **A clear program on a clear store reports clear events.** -/
theorem Clear.run {Q : α → Prop} {p : Program α} (h : p.Clear Q) {store : Store σ} {P : σ → Prop}
    (clear : store.Clear P) {s : σ} (good : P s) :
    (∀ e ∈ (p.run store s).events, e.Clear) ∧ P (p.run store s).state := by
  induction p generalizing s with
  | done a => exact ⟨nofun, good⟩
  | report e next ih =>
    obtain ⟨events, after⟩ := ih h.2 good
    exact ⟨List.forall_mem_cons.mpr ⟨h.1, events⟩, after⟩
  | ask call next ih =>
    obtain ⟨fit, rest⟩ := h
    obtain ⟨events, after⟩ := ih _ (rest _ (clear.answer fit good)) (clear.keeps fit good)
    exact ⟨List.forall_mem_append.mpr ⟨clear.remarks call s, events⟩, after⟩

theorem Clear.advance {Q : α → Prop} {p : Program α} (h : p.Clear Q) {store : Store σ}
    {P : σ → Prop} (clear : store.Clear P) {s : σ} (good : P s) :
    (p.advance store s).program.Clear Q ∧ P (p.advance store s).state ∧
      ∀ e ∈ (p.advance store s).events, e.Clear := by
  cases p with
  | done a => exact ⟨h, good, nofun⟩
  | report e next => exact ⟨h.2, good, List.forall_mem_singleton.mpr h.1⟩
  | ask call next =>
    exact ⟨h.2 _ (clear.answer h.1 good), clear.keeps h.1 good, clear.remarks call s⟩

end Program

namespace Crowd

/-- Everybody is clear, and so is all that was reported. -/
structure Clear (Q : α → Prop) (P : σ → Prop) (c : Crowd α σ) : Prop where
  members : ∀ p ∈ c.members, p.Clear Q
  state : P c.state
  events : ∀ e ∈ c.events, e.Clear

variable {Q : α → Prop} {P : σ → Prop} {store : Store σ} {c : Crowd α σ}

theorem Clear.turn (h : c.Clear Q P) (clear : store.Clear P) (i : Nat) :
    (c.turn store i).Clear Q P := by
  cases hmember : c.members[i]? with
  | none => rwa [turn_of_none hmember]
  | some p =>
    obtain ⟨program, state, events⟩ :=
      (h.members p (List.mem_of_getElem? hmember)).advance clear h.state
    rw [turn_of_some hmember]
    refine ⟨fun q hq => ?_, state, List.forall_mem_append.mpr ⟨h.events, events⟩⟩
    rcases List.mem_or_eq_of_mem_set hq with old | rfl
    · exact h.members q old
    · exact program

/-- **A clear crowd stays clear**, whoever takes a turn. -/
theorem Clear.run (h : c.Clear Q P) (clear : store.Clear P) (schedule : List Nat) :
    (c.run store schedule).Clear Q P := by
  induction schedule generalizing c with
  | nil => exact h
  | cons i schedule ih => exact ih (h.turn clear i)

end Crowd

end LinkLedger
