import Mathlib.Data.List.Forall2
import PlainTables.QueryError

/-!
# Computations that succeed or fail

A computation succeeds if each of its steps does, and a list is computed item by item. Which errors it can end in
is found from its steps as well: it fails with errors of a kind only, if each of its steps does.
-/

namespace PlainTables

theorem bind_eq_ok_iff {ε α β : Type} {x : Except ε α} {f : α → Except ε β} {b : β} :
    x >>= f = .ok b ↔ ∃ a, x = .ok a ∧ f a = .ok b := by
  constructor
  · intro succeeds
    cases x with
    | error e => cases succeeds
    | ok a => exact ⟨a, rfl, succeeds⟩
  · rintro ⟨a, rfl, rest⟩
    exact rest

theorem exists_of_map_eq_ok {ε α β : Type} {f : α → β} {x : Except ε α} {b : β}
    (mapped : x.map f = .ok b) : ∃ a, x = .ok a ∧ f a = b := by
  cases x with
  | error e => cases mapped
  | ok a => exact ⟨a, rfl, Except.ok.inj mapped⟩

theorem mapM_eq_ok_iff {ε α β : Type} {f : α → Except ε β} {items : List α} {results : List β} :
    items.mapM f = .ok results ↔ List.Forall₂ (fun a b => f a = .ok b) items results := by
  induction items generalizing results with
  | nil =>
    rw [List.forall₂_nil_left_iff, List.mapM_nil]
    exact ⟨fun h => (Except.ok.inj h).symm, fun h => h ▸ rfl⟩
  | cons a items ih =>
    rw [List.mapM_cons, List.forall₂_cons_left_iff]
    constructor
    · intro computed
      cases first : f a with
      | error e => rw [first] at computed; cases computed
      | ok b =>
        cases rest : items.mapM f with
        | error e => rw [first, rest] at computed; cases computed
        | ok bs =>
          rw [first, rest] at computed
          cases computed
          exact ⟨b, bs, rfl, ih.mp rest, rfl⟩
    · rintro ⟨b, bs, first, rest, rfl⟩
      rw [first, ih.mpr rest]
      rfl

theorem exists_of_mapM_eq_ok {ε α β : Type} {f : α → Except ε β} {items : List α}
    {results : List β} (computed : items.mapM f = .ok results) {a : α} (mem : a ∈ items) :
    ∃ b, f a = .ok b := by
  have each := mapM_eq_ok_iff.mp computed
  clear computed
  induction each with
  | nil => cases mem
  | cons first _ ih =>
    rcases List.mem_cons.mp mem with rfl | inRest
    · exact ⟨_, first⟩
    · exact ih inRest

theorem mapM_map {ε α β γ : Type} (f : α → Except ε β) (g : β → γ) (items : List α) :
    items.mapM (fun a => (f a).map g) = (items.mapM f).map (·.map g) := by
  induction items with
  | nil => rfl
  | cons a items ih =>
    rw [List.mapM_cons, List.mapM_cons, ih]
    cases f a with
    | error e => rfl
    | ok b => cases items.mapM f <;> rfl

theorem forM_eq_ok {ε α : Type} {f : α → Except ε Unit} {items : List α}
    (succeeds : items.forM f = .ok ()) : ∀ a ∈ items, f a = .ok () := by
  induction items with
  | nil => simp
  | cons a items ih =>
    obtain ⟨_, first, rest⟩ := bind_eq_ok_iff.mp succeeds
    exact List.forall_mem_cons.mpr ⟨first, ih rest⟩

theorem forall_mem_of_forall₂ {α β : Type} {R : α → β → Prop} {S : β → Prop} {items : List α}
    {results : List β} (each : List.Forall₂ R items results) (holds : ∀ a b, R a b → S b) :
    ∀ b ∈ results, S b := by
  induction each with
  | nil => simp
  | cons first _ ih => exact List.forall_mem_cons.mpr ⟨holds _ _ first, ih⟩

/-! ## Kinds of errors -/

/-- If the computation fails, its error is of the kind. -/
def FailsOnly {α : Type} (kind : QueryError → Prop) (x : Except QueryError α) : Prop :=
  ∀ e, x = .error e → kind e

namespace FailsOnly

variable {α β : Type} {kind kind' : QueryError → Prop} {x : Except QueryError α}

theorem mono (fails : FailsOnly kind x) (wider : ∀ e, kind e → kind' e) : FailsOnly kind' x :=
  fun e failed => wider e (fails e failed)

theorem ok (a : α) : FailsOnly kind (.ok a) :=
  fun _ failed => nomatch failed

theorem error {e : QueryError} (known : kind e) : FailsOnly kind (.error e : Except QueryError α) :=
  fun _ failed => Except.error.inj failed ▸ known

/-- An error is of the same kind whatever it has kept from being computed. -/
theorem passOn {e : QueryError} (fails : FailsOnly kind (.error e : Except QueryError α)) :
    FailsOnly kind (.error e : Except QueryError β) :=
  error (fails e rfl)

theorem bind {f : α → Except QueryError β} (first : FailsOnly kind x)
    (rest : ∀ a, x = .ok a → FailsOnly kind (f a)) : FailsOnly kind (x >>= f) := by
  cases result : x with
  | error e => exact passOn (result ▸ first)
  | ok a => exact rest a result

theorem map (f : α → β) (fails : FailsOnly kind x) : FailsOnly kind (x.map f) := by
  cases result : x with
  | error e => exact passOn (result ▸ fails)
  | ok a => exact ok (f a)

theorem mapM {f : α → Except QueryError β} {items : List α}
    (each : ∀ a ∈ items, FailsOnly kind (f a)) : FailsOnly kind (items.mapM f) := by
  induction items with
  | nil => exact ok []
  | cons a items ih =>
    rw [List.mapM_cons]
    refine (each a List.mem_cons_self).bind fun b _ => ?_
    refine (ih fun a mem => each a (List.mem_cons_of_mem _ mem)).bind fun bs _ => ?_
    exact ok (b :: bs)

theorem forM {f : α → Except QueryError Unit} {items : List α}
    (each : ∀ a ∈ items, FailsOnly kind (f a)) : FailsOnly kind (items.forM f) := by
  induction items with
  | nil => exact ok ()
  | cons a items ih =>
    exact (each a List.mem_cons_self).bind fun _ _ =>
      ih fun a mem => each a (List.mem_cons_of_mem _ mem)

theorem foldlM {f : β → α → Except QueryError β} (items : List α)
    (each : ∀ b a, FailsOnly kind (f b a)) (b : β) : FailsOnly kind (items.foldlM f b) := by
  induction items generalizing b with
  | nil => exact ok b
  | cons a items ih =>
    rw [List.foldlM_cons]
    exact (each b a).bind fun b' _ => ih b'

end FailsOnly

/-- The computation fails with errors of the kind only, and its result has the property. -/
def Yields {α : Type} (good : α → Prop) (kind : QueryError → Prop) (x : Except QueryError α) : Prop :=
  FailsOnly kind x ∧ ∀ a, x = .ok a → good a

namespace Yields

variable {α β : Type} {good : α → Prop} {good' : β → Prop} {kind : QueryError → Prop}
  {x : Except QueryError α}

theorem ok {a : α} (holds : good a) : Yields good kind (.ok a) :=
  ⟨.ok a, fun _ same => Except.ok.inj same ▸ holds⟩

theorem error {e : QueryError} (known : kind e) : Yields good kind (.error e) :=
  ⟨.error known, nofun⟩

theorem mono {kind' : QueryError → Prop} (yields : Yields good kind x)
    (wider : ∀ e, kind e → kind' e) : Yields good kind' x :=
  ⟨yields.1.mono wider, yields.2⟩

theorem bind {f : α → Except QueryError β} (first : Yields good kind x)
    (rest : ∀ a, good a → Yields good' kind (f a)) : Yields good' kind (x >>= f) := by
  cases result : x with
  | error e => exact error (first.1 e result)
  | ok a => exact rest a (first.2 a result)

end Yields

theorem FailsOnly.yields {α : Type} {kind : QueryError → Prop} {x : Except QueryError α}
    (fails : FailsOnly kind x) : Yields (fun _ => True) kind x :=
  ⟨fails, fun _ _ => trivial⟩

namespace QueryError

def isType : QueryError → Bool
  | type _ => true
  | _ => false

/-- The error comes from what a statement asks for or from the values that it is asked of. -/
def isOfEvaluation : QueryError → Bool
  | type _ | unsupportedFeature _ | unknownColumn _ => true
  | _ => false

def isOfSettings : QueryError → Bool
  | unknownCipher .. | invalidConfiguration _ => true
  | _ => false

theorem isOfEvaluation_of_isType {e : QueryError} (type : e.isType = true) :
    e.isOfEvaluation = true := by
  cases e <;> first | rfl | cases type

theorem not_isOfSettings_of_isOfEvaluation {e : QueryError} (evaluation : e.isOfEvaluation = true) :
    e.isOfSettings = false := by
  cases e <;> first | rfl | cases evaluation

theorem not_isOfSettings_of_isQuoteError {e : QueryError} (quote : e.isQuoteError = true) :
    e.isOfSettings = false := by
  cases e <;> first | rfl | cases quote

end QueryError

end PlainTables
