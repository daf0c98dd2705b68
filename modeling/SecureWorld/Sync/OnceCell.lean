import SecureWorld.Fault

/-!
# Cells written once

A cell is empty until one writer claims it and holds a value for ever after that writer has published one.
An initializer runs between the two, so what it sees of the cell is a claimed cell without a value.
-/

namespace SecureWorld.Sync

/-- A cell that is written at most once. -/
inductive OnceCell (α : Type) where
  | empty
  /-- A writer has the right to publish but has not done so. -/
  | claimed
  | filled (value : α)
deriving DecidableEq, Repr

/-- What an initializer does to the cell it is initializing before it produces a value or gives up. -/
inductive Initializer (α : Type) where
  | produce (value : α)
  | abandon (reason : Fault)
  | get (next : Option α → Initializer α)
  | isFilled (next : Bool → Initializer α)
  /-- Offer a value; a refused one is dropped at once. -/
  | set (value : α) (next : Bool → Initializer α)

/-- An operation on a cell. -/
inductive OnceCell.Op (α : Type) where
  | set (value : α)
  | get
  | isFilled
  | wait
  | getOrInit (init : Initializer α)

/-- What an operation on a cell answers. -/
inductive OnceCell.Answer (α : Type) where
  | stored (value : α)
  | refused (value : α)
  | value (value : Option α)
  | flag (filled : Bool)
  | fault (reason : Fault)
deriving DecidableEq, Repr

namespace OnceCell

variable {α : Type}

/-- The value of a cell, once it is published. -/
def get : OnceCell α → Option α
  | .filled v => some v
  | _ => none

/-- Whether a value has been published. -/
def isFilled (c : OnceCell α) : Bool :=
  c.get.isSome

/-- Publish a value if nobody has claimed the cell: the cell afterwards and whether the value was taken. -/
def set (c : OnceCell α) (v : α) : OnceCell α × Bool :=
  match c with
  | .empty => (.filled v, true)
  | _ => (c, false)

/-- The observations of an initializer, each a question and its answer. -/
inductive Seen (α : Type) where
  | got (value : Option α)
  | filled (b : Bool)
  | offered (value : α) (taken : Bool)
deriving DecidableEq, Repr

/-- What a run leaves behind: the cell, the observations made, and the values dropped on the way. -/
structure Run (α ρ : Type) where
  cell : OnceCell α
  seen : List (Seen α)
  dropped : List α
  result : ρ

/-- Run an initializer on the cell it is initializing. -/
def runInit (c : OnceCell α) : Initializer α → Run α (Except Fault α)
  | .produce v => ⟨c, [], [], .ok v⟩
  | .abandon r => ⟨c, [], [], .error r⟩
  | .get k =>
    let r := runInit c (k c.get)
    { r with seen := .got c.get :: r.seen }
  | .isFilled k =>
    let r := runInit c (k c.isFilled)
    { r with seen := .filled c.isFilled :: r.seen }
  | .set v k =>
    match c.set v with
    | (c', taken) =>
      let r := runInit c' (k taken)
      { r with
        seen := .offered v taken :: r.seen
        dropped := (if taken then [] else [v]) ++ r.dropped }

/-- One operation. Waiting for a value that nobody will publish has no answer. -/
def step? (c : OnceCell α) : Op α → Option (Run α (Answer α))
  | .set v =>
    match c.set v with
    | (c', true) => some ⟨c', [], [], .stored v⟩
    | (c', false) => some ⟨c', [], [v], .refused v⟩
  | .get => some ⟨c, [], [], .value c.get⟩
  | .isFilled => some ⟨c, [], [], .flag c.isFilled⟩
  | .wait =>
    match c with
    | .filled v => some ⟨c, [], [], .value (some v)⟩
    | _ => none
  | .getOrInit init =>
    match c with
    | .filled v => some ⟨c, [], [], .value (some v)⟩
    | .claimed => none
    | .empty =>
      let r := runInit .claimed init
      match r.result with
      | .ok v => some ⟨.filled v, r.seen, r.dropped, .value (some v)⟩
      | .error e => some ⟨r.cell, r.seen, r.dropped, .fault e⟩

/-- The values dropped with the cell itself. -/
def contents (c : OnceCell α) : List α :=
  c.get.toList

/-- A cell is shown with its value, or as not initialized. -/
def describe (show1 : α → String) (c : OnceCell α) : String :=
  match c.get with
  | some v => "SyncOnceCell(" ++ show1 v ++ ")"
  | none => "SyncOnceCell(<uninit>)"

end OnceCell

end SecureWorld.Sync
