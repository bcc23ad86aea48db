import LinkLedger.Crowd

/-!
# Runs of programs

Three ways to know something about a run without following it question by question.

* `Program.Always P p`: whatever `p` is answered, it ends with a value that satisfies `P`. A fact
  about the tree of questions alone, so it holds of a run against any store.
* `Program.run_keeps`: what every answer of a store keeps true of its state, a run keeps true.
* `Lockstep A B R Room`: two stores that answer every question alike while their states are related
  by `R`. **`Lockstep.run` extends this from one question to every program**, and `Lockstep.runAll`
  to programs in a row: same values, same events, related states. `Room` is for stores that can run
  full: it is asked of the state in which the run ends, and nothing is promised of runs that leave
  it.

The last section counts turns: a program that needs at most `k` steps is done once it has had `k`
turns, whoever else takes turns in between.
-/

set_option autoImplicit false

namespace LinkLedger

variable {α β σ τ : Type}

namespace Program

/-! ## What a program can end with -/

/-- Whatever the program is answered, it ends with a value that satisfies `P`. -/
def Always (P : α → Prop) : Program α → Prop
  | done a => P a
  | report _ next => next.Always P
  | ask _ next => ∀ answer, (next answer).Always P

theorem Always.run {P : α → Prop} {p : Program α} (h : p.Always P) (store : Store σ) (s : σ) :
    P (p.run store s).value := by
  induction p generalizing s with
  | done a => exact h
  | report e next ih => exact ih h s
  | ask call next ih => exact ih _ (h _) _

theorem Always.mono {P Q : α → Prop} {p : Program α} (h : p.Always P) (imp : ∀ a, P a → Q a) :
    p.Always Q := by
  induction p with
  | done a => exact imp a h
  | report e next ih => exact ih h
  | ask call next ih => exact fun answer => ih answer (h answer)

/-- A program that goes on where another is done ends as its second part does. -/
theorem Always.bind {P : β → Prop} {p : Program α} {f : α → Program β}
    (h : ∀ a, (f a).Always P) : (p.bind f).Always P := by
  induction p with
  | done a => exact h a
  | report e next ih => exact ih
  | ask call next ih => exact fun answer => ih answer

/-! ## What a run keeps true -/

/-- What every answer keeps true of the state of a store, a run keeps true. -/
theorem run_keeps {store : Store σ} {P : σ → Prop}
    (keeps : ∀ call s, P s → P (store.answer call s).2) (p : Program α) {s : σ} (h : P s) :
    P (p.run store s).state := by
  induction p generalizing s with
  | done a => exact h
  | report e next ih => exact ih h
  | ask call next ih => exact ih _ (keeps call s h)

/-! ## Programs in a row -/

/-- Runs programs one after another: the state afterwards, and the value and the events of each. -/
def runAll (store : Store σ) : List (Program α) → σ → σ × List (α × List Event)
  | [], s => (s, [])
  | p :: more, s =>
    let ran := p.run store s
    let (after, rest) := runAll store more ran.state
    (after, (ran.value, ran.events) :: rest)

@[simp] theorem runAll_nil (store : Store σ) (s : σ) :
    runAll store ([] : List (Program α)) s = (s, []) := rfl

@[simp] theorem runAll_cons (store : Store σ) (p : Program α) (more : List (Program α)) (s : σ) :
    runAll store (p :: more) s =
      ((runAll store more (p.run store s).state).1,
        ((p.run store s).value, (p.run store s).events) ::
          (runAll store more (p.run store s).state).2) := rfl

theorem runAll_append (store : Store σ) (first more : List (Program α)) (s : σ) :
    runAll store (first ++ more) s =
      ((runAll store more (runAll store first s).1).1,
        (runAll store first s).2 ++ (runAll store more (runAll store first s).1).2) := by
  induction first generalizing s with
  | nil => rfl
  | cons p first ih => simp [ih]

/-- What every answer keeps true of the state of a store, programs in a row keep true. -/
theorem runAll_keeps {store : Store σ} {P : σ → Prop}
    (keeps : ∀ call s, P s → P (store.answer call s).2) (programs : List (Program α)) {s : σ}
    (h : P s) : P (runAll store programs s).1 := by
  induction programs generalizing s with
  | nil => exact h
  | cons p more ih => exact ih (p.run_keeps keeps h)

@[simp] theorem length_runAll (store : Store σ) (programs : List (Program α)) (s : σ) :
    (runAll store programs s).2.length = programs.length := by
  induction programs generalizing s with
  | nil => rfl
  | cons p more ih => simp [ih]

end Program

/-! ## Two stores in step -/

/-- Two stores answer alike while their states are related and the second has room. -/
structure Lockstep (A : Store σ) (B : Store τ) (R : σ → τ → Prop) (Room : τ → Prop) : Prop where
  /-- An answer never makes room. -/
  room_before : ∀ {call t}, Room (B.answer call t).2 → Room t
  answer_eq : ∀ (call) {s t}, R s t → Room (B.answer call t).2 →
    (A.answer call s).1 = (B.answer call t).1
  related : ∀ (call) {s t}, R s t → Room (B.answer call t).2 →
    R (A.answer call s).2 (B.answer call t).2
  remarks_eq : ∀ {call s t}, R s t → A.remarks call s = B.remarks call t

namespace Lockstep

variable {A : Store σ} {B : Store τ} {R : σ → τ → Prop} {Room : τ → Prop}

theorem room_before_run (h : Lockstep A B R Room) (p : Program α) {t : τ}
    (room : Room (p.run B t).state) : Room t := by
  induction p generalizing t with
  | done a => exact room
  | report e next ih => exact ih room
  | ask call next ih => exact h.room_before (ih _ room)

theorem room_before_runAll (h : Lockstep A B R Room) (programs : List (Program α)) {t : τ}
    (room : Room (Program.runAll B programs t).1) : Room t := by
  induction programs generalizing t with
  | nil => exact room
  | cons p more ih => exact h.room_before_run p (ih room)

/-- **Stores that answer every question alike run every program alike**: the value and the events
    are the same, and the states are related afterwards. -/
theorem run (h : Lockstep A B R Room) (p : Program α) {s : σ} {t : τ} (related : R s t)
    (room : Room (p.run B t).state) :
    (p.run A s).value = (p.run B t).value ∧ (p.run A s).events = (p.run B t).events ∧
      R (p.run A s).state (p.run B t).state := by
  induction p generalizing s t with
  | done a => exact ⟨rfl, rfl, related⟩
  | report e next ih =>
    obtain ⟨value, events, after⟩ := ih related room
    exact ⟨value, congrArg (e :: ·) events, after⟩
  | ask call next ih =>
    have first : Room (B.answer call t).2 := h.room_before_run _ room
    simp only [Program.run_ask] at room ⊢
    rw [h.answer_eq call related first, h.remarks_eq related]
    obtain ⟨value, events, after⟩ := ih (B.answer call t).1 (h.related call related first) room
    exact ⟨value, congrArg _ events, after⟩

theorem runAll (h : Lockstep A B R Room) (programs : List (Program α)) {s : σ} {t : τ}
    (related : R s t) (room : Room (Program.runAll B programs t).1) :
    (Program.runAll A programs s).2 = (Program.runAll B programs t).2 ∧
      R (Program.runAll A programs s).1 (Program.runAll B programs t).1 := by
  induction programs generalizing s t with
  | nil => exact ⟨rfl, related⟩
  | cons p more ih =>
    have first : Room (p.run B t).state := h.room_before_runAll more room
    obtain ⟨value, events, after⟩ := h.run p related first
    obtain ⟨rest, last⟩ := ih after room
    rw [Program.runAll_cons, Program.runAll_cons, value, events, rest]
    exact ⟨rfl, last⟩

end Lockstep

/-! ## Counting turns -/

namespace Program

/-- Whatever the program is answered, it is done after at most `k` steps. -/
def Within : Nat → Program α → Prop
  | _, done _ => True
  | 0, _ => False
  | k + 1, report _ next => next.Within k
  | k + 1, ask _ next => ∀ answer, (next answer).Within k

theorem Within.advance {store : Store σ} {k : Nat} {p : Program α} (h : p.Within (k + 1)) (s : σ) :
    (p.advance store s).program.Within k := by
  cases p with
  | done a => cases k <;> exact trivial
  | report e next => exact h
  | ask call next => exact h _

theorem Within.isSome_value? {p : Program α} (h : p.Within 0) : p.value?.isSome = true := by
  cases p with
  | done a => rfl
  | report e next => exact h.elim
  | ask call next => exact h.elim

theorem within_of_isSome_value? {p : Program α} (h : p.value?.isSome = true) (k : Nat) :
    p.Within k := by
  cases p with
  | done a => cases k <;> exact trivial
  | report e next => simp [value?] at h
  | ask call next => simp [value?] at h

end Program

namespace Crowd

theorem turn_of_none {store : Store σ} {c : Crowd α σ} {i : Nat} (h : c.members[i]? = none) :
    c.turn store i = c := by
  simp only [turn, h]

theorem turn_of_some {store : Store σ} {c : Crowd α σ} {i : Nat} {p : Program α}
    (h : c.members[i]? = some p) :
    c.turn store i = ⟨c.members.set i (p.advance store c.state).program,
      (p.advance store c.state).state, c.events ++ (p.advance store c.state).events⟩ := by
  simp only [turn, h]

/-- The members after a turn: the one whose turn it was has taken a step. -/
theorem getElem?_members_turn (store : Store σ) (c : Crowd α σ) (i j : Nat) :
    (c.turn store i).members[j]? =
      if i = j then c.members[j]?.map fun p => (p.advance store c.state).program
      else c.members[j]? := by
  cases h : c.members[i]? with
  | none =>
    rw [turn_of_none h]
    by_cases hij : i = j
    · subst hij
      simp [h]
    · simp [hij]
  | some p =>
    rw [turn_of_some h]
    have hi : i < c.members.length := (List.getElem?_eq_some_iff.1 h).1
    by_cases hij : i = j
    · subst hij
      rw [if_pos rfl, h]
      simp [hi]
    · simp [hij]

/-- Everybody who has had as many turns as it may need is done. -/
theorem isSome_value?_of_turns (store : Store σ) (schedule : List Nat) :
    ∀ {c : Crowd α σ} {i k : Nat} {p : Program α}, c.members[i]? = some p → p.Within k →
      k ≤ schedule.count i →
      ∃ q, (c.run store schedule).members[i]? = some q ∧ q.value?.isSome = true := by
  induction schedule with
  | nil =>
    intro c i k p hp hk hturns
    obtain rfl : k = 0 := by simpa using hturns
    exact ⟨p, hp, hk.isSome_value?⟩
  | cons j schedule ih =>
    intro c i k p hp hk hturns
    rw [run_cons]
    have hget := getElem?_members_turn store c j i
    by_cases hij : j = i
    · rw [if_pos hij, hp, Option.map_some] at hget
      rw [List.count_cons, if_pos (by simp [hij])] at hturns
      cases k with
      | zero =>
        -- A program that is done already stays so, however often its turn comes.
        have hdone := p.within_of_isSome_value? hk.isSome_value? 1
        exact ih hget (hdone.advance _) (Nat.zero_le _)
      | succ k => exact ih hget (hk.advance _) (by omega)
    · rw [if_neg hij, hp] at hget
      rw [List.count_cons, if_neg (by simp [hij])] at hturns
      exact ih hget hk hturns

end Crowd

end LinkLedger
