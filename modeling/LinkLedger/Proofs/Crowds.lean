import LinkLedger.Proofs.Store.Healthy

/-!
# Programs side by side

Two ways to know something about programs that share a store, whatever the schedule.

* `Lockstep.crowd`: stores that answer every question alike run every crowd alike.
* `Program.Safe inv fine good p l`: what a program relies on, and what it owes the others. It begins
  when the ledger is `l`; from then on the ledger may grow between any two of its questions, but
  keeps `inv`. Whatever the program finds, it leaves the ledger with `inv`, reports only what is
  `fine`, and ends with a value that is `good`.

A program that is safe stays so when the ledger grows (`Safe.mono`), so what it has learned from an
answer it still knows at its next turn. **Safe programs are safe together** (`Crowd.Safe.run`), and
in a row (`Program.Safe.runAll`).
-/

set_option autoImplicit false

namespace LinkLedger

variable {α β σ τ : Type}

/-! ## Crowds on two stores in step -/

namespace Lockstep

variable {A : Store σ} {B : Store τ} {R : σ → τ → Prop} {Room : τ → Prop}

/-- One step of a program comes to the same on both stores. -/
theorem advance (h : Lockstep A B R Room) (p : Program α) {s : σ} {t : τ} (related : R s t)
    (room : Room (p.advance B t).state) :
    (p.advance A s).program = (p.advance B t).program ∧
      (p.advance A s).events = (p.advance B t).events ∧
      R (p.advance A s).state (p.advance B t).state := by
  cases p with
  | done a => exact ⟨rfl, rfl, related⟩
  | report e next => exact ⟨rfl, rfl, related⟩
  | ask call next =>
    simp only [Program.advance] at room ⊢
    rw [h.answer_eq call related room, h.remarks_eq related]
    exact ⟨rfl, rfl, h.related call related room⟩

theorem room_before_advance (h : Lockstep A B R Room) (p : Program α) {t : τ}
    (room : Room (p.advance B t).state) : Room t := by
  cases p with
  | done a => exact room
  | report e next => exact room
  | ask call next => exact h.room_before room

theorem room_before_turn (h : Lockstep A B R Room) {d : Crowd α τ} {i : Nat}
    (room : Room (d.turn B i).state) : Room d.state := by
  cases hp : d.members[i]? with
  | none => rwa [Crowd.turn_of_none hp] at room
  | some p =>
    rw [Crowd.turn_of_some hp] at room
    exact h.room_before_advance p room

theorem room_before_crowd (h : Lockstep A B R Room) (schedule : List Nat) :
    ∀ {d : Crowd α τ}, Room (d.run B schedule).state → Room d.state := by
  induction schedule with
  | nil => exact fun room => room
  | cons i schedule ih => exact fun room => h.room_before_turn (ih room)

/-- **Stores that answer every question alike run every crowd alike**, whatever the schedule. -/
theorem crowd (h : Lockstep A B R Room) (schedule : List Nat) :
    ∀ {c : Crowd α σ} {d : Crowd α τ}, c.members = d.members → c.events = d.events →
      R c.state d.state → Room (d.run B schedule).state →
      (c.run A schedule).members = (d.run B schedule).members ∧
        (c.run A schedule).events = (d.run B schedule).events ∧
        R (c.run A schedule).state (d.run B schedule).state := by
  induction schedule with
  | nil => exact fun members events related _ => ⟨members, events, related⟩
  | cons i schedule ih =>
    intro c d members events related room
    simp only [Crowd.run_cons] at room ⊢
    have first : Room (d.turn B i).state := h.room_before_crowd schedule room
    cases hp : d.members[i]? with
    | none =>
      -- Nobody has this number, so the turn changes neither crowd.
      have hp' : c.members[i]? = none := by rw [members, hp]
      rw [Crowd.turn_of_none hp] at room ⊢
      rw [Crowd.turn_of_none hp']
      exact ih members events related room
    | some p =>
      have hp' : c.members[i]? = some p := by rw [members, hp]
      rw [Crowd.turn_of_some hp] at first room ⊢
      rw [Crowd.turn_of_some hp']
      obtain ⟨program, reported, after⟩ := h.advance p related first
      refine ih ?_ ?_ after room
      · rw [members, program]
      · rw [events, reported]

end Lockstep

/-! ## Everybody's turns -/

namespace Program

theorem Within.mono {p : Program α} {j k : Nat} (h : p.Within j) (hle : j ≤ k) : p.Within k := by
  induction p generalizing j k with
  | done a => cases k <;> exact trivial
  | report e next ih =>
    cases j with
    | zero => exact h.elim
    | succ j =>
      cases k with
      | zero => exact absurd hle (Nat.not_succ_le_zero j)
      | succ k => exact ih h (Nat.le_of_succ_le_succ hle)
  | ask call next ih =>
    cases j with
    | zero => exact h.elim
    | succ j =>
      cases k with
      | zero => exact absurd hle (Nat.not_succ_le_zero j)
      | succ k => exact fun answer => ih answer (h answer) (Nat.le_of_succ_le_succ hle)

/-- The steps of two parts add up. -/
theorem Within.bind {p : Program α} {f : α → Program β} {k m : Nat} (h : p.Within k)
    (rest : ∀ a, (f a).Within m) : (p.bind f).Within (m + k) := by
  induction p generalizing k with
  | done a => exact (rest a).mono (Nat.le_add_right m k)
  | report e next ih =>
    cases k with
    | zero => exact h.elim
    | succ k => exact ih h
  | ask call next ih =>
    cases k with
    | zero => exact h.elim
    | succ k => exact fun answer => ih answer (h answer)

end Program

/-- Whoever has had as many turns as it may need has a value. -/
theorem Crowd.done_of_turns (store : Store σ) {schedule : List Nat} {c : Crowd α σ} {i k : Nat}
    {p : Program α} (hp : c.members[i]? = some p) (within : p.Within k)
    (turns : k ≤ schedule.count i) :
    ∃ a, (c.run store schedule).members[i]? = some (.done a) := by
  obtain ⟨q, hq, value⟩ := isSome_value?_of_turns store schedule hp within turns
  cases q with
  | done a => exact ⟨a, hq⟩
  | report event next => cases value
  | ask call next => cases value

/-! ## Safe programs -/

namespace Program

/-- A program that may be run beside others from a ledger on. -/
def Safe (inv : Ledger → Prop) (fine : Event → Prop) (good : α → Prop) :
    Program α → Ledger → Prop
  | done a, _ => good a
  | report e next, l => fine e ∧ next.Safe inv fine good l
  | ask call next, l => ∀ l', l.links <+: l'.links → inv l' →
      inv (Ledger.store.answer call l').2 ∧
        (next (Ledger.store.answer call l').1).Safe inv fine good (Ledger.store.answer call l').2

namespace Safe

variable {inv : Ledger → Prop} {fine : Event → Prop} {good : α → Prop} {l : Ledger}

/-- A program that is safe stays so when others add to the ledger. -/
theorem mono {p : Program α} (h : p.Safe inv fine good l) {l' : Ledger}
    (grown : l.links <+: l'.links) : p.Safe inv fine good l' := by
  induction p with
  | done a => exact h
  | report e next ih => exact ⟨h.1, ih h.2⟩
  -- What goes on from the larger ledger goes on from the smaller one.
  | ask call next ih => exact fun later further => h later (grown.trans further)

/-- A program that goes on where a safe one is done. -/
theorem bind {good' : β → Prop} {p : Program α} {f : α → Program β}
    (h : p.Safe inv fine good l)
    (rest : ∀ a l', good a → l.links <+: l'.links → (f a).Safe inv fine good' l') :
    (p.bind f).Safe inv fine good' l := by
  induction p generalizing l with
  | done a => exact rest a l h List.prefix_rfl
  | report e next ih => exact ⟨h.1, ih h.2 rest⟩
  | ask call next ih =>
    intro l' grown holds
    obtain ⟨after, safe⟩ := h l' grown holds
    -- The second part may still rely on all that was written down when the first began.
    have further := grown.trans (Ledger.links_prefix_answer call l')
    exact ⟨after, ih _ safe fun a later ha more => rest a later ha (further.trans more)⟩

/-! What a program finds when it asks: the answer is that of some later ledger. -/

section

variable {url : String} {id : LinkId}

theorem findByUrl {next : (Call.findByUrl url).Outcome → Program α}
    (h : ∀ l', l.links <+: l'.links → inv l' →
      (next (.ok (l'.idOf? url))).Safe inv fine good l') :
    (ask (.findByUrl url) next).Safe inv fine good l :=
  fun l' grown holds => ⟨holds, h l' grown holds⟩

theorem get {next : (Call.get id).Outcome → Program α}
    (h : ∀ l', l.links <+: l'.links → inv l' → (next (.ok (l'.get? id))).Safe inv fine good l') :
    (ask (.get id) next).Safe inv fine good l :=
  fun l' grown holds => ⟨holds, h l' grown holds⟩

/-- An insertion loses to whoever wrote the url down, or keeps the invariant. -/
theorem insert {next : (Call.insert url).Outcome → Program α}
    (lost : ∀ l', l.links <+: l'.links → inv l' → url ∈ l'.urls →
      (next (.error ⟨.conflict, url⟩)).Safe inv fine good l')
    (won : ∀ l', l.links <+: l'.links → inv l' → url ∉ l'.urls →
      inv (l'.push url) ∧ (next (.ok l'.next)).Safe inv fine good (l'.push url)) :
    (ask (.insert url) next).Safe inv fine good l := by
  intro l' grown holds
  show inv (l'.insert url).2 ∧ (next (l'.insert url).1).Safe inv fine good (l'.insert url).2
  by_cases written : url ∈ l'.urls
  · rw [Ledger.insert_of_mem written]
    exact ⟨holds, lost l' grown holds written⟩
  · rw [Ledger.insert_of_not_mem written]
    exact won l' grown holds written

end

/-! What a safe program does. -/

/-- One step leaves the invariant, and the program safe; the ledger has grown at most. -/
theorem advance {p : Program α} (h : p.Safe inv fine good l) (holds : inv l) :
    inv (p.advance Ledger.store l).state ∧
      (p.advance Ledger.store l).program.Safe inv fine good (p.advance Ledger.store l).state ∧
      l.links <+: (p.advance Ledger.store l).state.links ∧
      ∀ e ∈ (p.advance Ledger.store l).events, fine e := by
  cases p with
  | done a => exact ⟨holds, h, List.prefix_rfl, fun e he => absurd he List.not_mem_nil⟩
  | report e next =>
    refine ⟨holds, h.2, List.prefix_rfl, fun e' he' => ?_⟩
    rw [List.mem_singleton.mp he']
    exact h.1
  | ask call next =>
    obtain ⟨after, safe⟩ := h l List.prefix_rfl holds
    exact ⟨after, safe, Ledger.links_prefix_answer call l, fun e he => absurd he List.not_mem_nil⟩

/-- Run alone, it ends with a good value. -/
theorem run {p : Program α} (h : p.Safe inv fine good l) (holds : inv l) :
    good (p.run Ledger.store l).value ∧ inv (p.run Ledger.store l).state ∧
      ∀ e ∈ (p.run Ledger.store l).events, fine e := by
  induction p generalizing l with
  | done a => exact ⟨h, holds, fun e he => absurd he List.not_mem_nil⟩
  | report e next ih =>
    obtain ⟨value, after, events⟩ := ih h.2 holds
    refine ⟨value, after, fun e' he' => ?_⟩
    rcases List.mem_cons.mp he' with rfl | later
    · exact h.1
    · exact events e' later
  | ask call next ih =>
    obtain ⟨between, safe⟩ := h l List.prefix_rfl holds
    exact ih _ safe between

/-- **Safe programs are safe in a row.** -/
theorem runAll (programs : List (Program α)) :
    ∀ {l : Ledger}, (∀ p ∈ programs, ∀ l', p.Safe inv fine good l') → inv l →
      ∀ ran ∈ (Program.runAll Ledger.store programs l).2, good ran.1 ∧ ∀ e ∈ ran.2, fine e := by
  induction programs with
  | nil => exact fun _ _ ran hran => absurd hran List.not_mem_nil
  | cons p more ih =>
    intro l safe holds ran hran
    obtain ⟨value, after, events⟩ := (safe p List.mem_cons_self l).run holds
    rcases List.mem_cons.mp hran with rfl | later
    · exact ⟨value, events⟩
    · exact ih (fun q hq => safe q (List.mem_cons_of_mem p hq)) after ran later

end Safe

end Program

namespace Crowd

/-- A crowd on a ledger in which everybody is safe, and nothing was reported but what is fine. -/
structure Safe (inv : Ledger → Prop) (fine : Event → Prop) (good : α → Prop)
    (c : Crowd α Ledger) : Prop where
  inv_now : inv c.state
  members : ∀ p ∈ c.members, p.Safe inv fine good c.state
  events : ∀ e ∈ c.events, fine e

namespace Safe

variable {inv : Ledger → Prop} {fine : Event → Prop} {good : α → Prop} {c : Crowd α Ledger}

theorem turn (h : c.Safe inv fine good) (i : Nat) : (c.turn Ledger.store i).Safe inv fine good := by
  cases hp : c.members[i]? with
  | none => rwa [turn_of_none hp]
  | some p =>
    obtain ⟨after, safe, grown, reported⟩ :=
      (h.members p (List.mem_of_getElem? hp)).advance h.inv_now
    rw [turn_of_some hp]
    refine ⟨after, fun q hq => ?_, fun e he => ?_⟩
    · rcases List.mem_or_eq_of_mem_set hq with old | rfl
      · exact (h.members q old).mono grown
      · exact safe
    · rcases List.mem_append.mp he with old | new
      · exact h.events e old
      · exact reported e new

/-- **Safe programs are safe together**, whatever the schedule. -/
theorem run (schedule : List Nat) :
    ∀ {c : Crowd α Ledger}, c.Safe inv fine good →
      (c.run Ledger.store schedule).Safe inv fine good := by
  induction schedule with
  | nil => exact fun h => h
  | cons i schedule ih => exact fun h => ih (h.turn i)

theorem of_done (h : c.Safe inv fine good) {i : Nat} {a : α}
    (done : c.members[i]? = some (.done a)) : good a :=
  h.members _ (List.mem_of_getElem? done)

end Safe

end Crowd

end LinkLedger
