import Mathlib.Data.List.Perm.Basic
import Derouter.Lib.Loop
import Derouter.Lib.Sql.Table
import Derouter.Lib.Sql.Text

-- What a `SELECT` returns, over values of any type.

namespace Sql

universe u v

-- What the clauses look at in a value.
class Cell (ν : Type u) where
  null     : ν
  -- `a > b` is true. It is not if one of them is `NULL`.
  gt       : ν → ν → Bool
  integer? : ν → Option Int

inductive Param (ν : Type u)
  | single (value : ν)
  -- The argument of a table-valued function, which is `NULL` to everything else.
  | array (values : List ν)

abbrev Row (ν : Type u) :=
  List (Column × ν)

-- The rows of a table, or of joined tables. All have the same columns.
structure Relation (ν : Type u) where
  columns : List Column
  rows    : List (Row ν)
  named   : ∀ r ∈ rows, r.map (·.1) = columns

-- The tables, and the table-valued functions.
structure Catalog (ν : Type u) where
  table     : String → Option (Relation ν)
  functions : List String

-- The parameter with this number. The first one has the number one.
def bound {α : Type u} (params : List α) : Nat → Option α
  | 0     => none
  | n + 1 => params[n]?

-- A negative limit is none.
def upTo {α : Type u} (limit : Int) (l : List α) : List α :=
  if limit < 0 then l else l.take limit.toNat

section

variable {ν : Type u} [Cell ν] [DecidableEq ν]

def Param.value : Param ν → ν
  | single value => value
  | array _      => Cell.null

-- `a = b` is true.
def equal : Option ν → Option ν → Bool
  | some a, some b => decide (a ≠ Cell.null) && decide (a = b)
  | _, _           => false

def Relation.join (r r' : Relation ν) (left right : Column) : Relation ν where
  columns := r.columns ++ r'.columns
  rows    := r.rows.flatMap fun x =>
    r'.rows.filterMap fun y =>
      if equal ((x ++ y).lookup left) ((x ++ y).lookup right) then some (x ++ y) else none
  named   := by
    intro z hz
    obtain ⟨x, hx, hz⟩ := List.mem_flatMap.mp hz
    obtain ⟨y, hy, hz⟩ := List.mem_filterMap.mp hz
    split at hz <;> try contradiction
    rw [← Option.some.inj hz, List.map_append, r.named x hx, r'.named y hy]

def Condition.holds (params : List (Param ν)) (row : Row ν) : Condition → Bool
  | greater column param =>
    match row.lookup column, bound params param with
    | some a, some p => Cell.gt a p.value
    | _, _           => false
  | inTable column _ param =>
    match row.lookup column, bound params param with
    | some a, some (.array values) => decide (a ≠ Cell.null) && decide (a ∈ values)
    | _, _                         => false

namespace Condition

def column : Condition → Column
  | greater column _   => column
  | inTable column _ _ => column

def function? : Condition → Option String
  | greater ..           => none
  | inTable _ function _ => some function

end Condition

namespace Select

-- The tables that the statement joins. A table or a column may not exist.
def source (catalog : Catalog ν) (s : Select) : Option (Relation ν) :=
  s.joins.foldl (fun r? j => r?.bind fun r => (catalog.table j.table).bind fun r' =>
    let joined := r.join r' j.left j.right
    if j.left ∈ joined.columns ∧ j.right ∈ joined.columns then some joined else none)
    (catalog.table s.table)

-- The numbers of the parameters, in the order of the text.
def placeholders (s : Select) : List Nat :=
  s.conditions.map (·.param) ++ s.limit.toList

def parameterCount (s : Select) : Nat :=
  s.placeholders.foldr max 0

def project (s : Select) (row : Row ν) : Option (List ν) :=
  (s.column :: s.columns).mapM (row.lookup ·)

-- The limit must be an integer.
def limitOf (s : Select) (params : List (Param ν)) : Option (List (Row ν) → List (Row ν)) :=
  match s.limit with
  | none   => some id
  | some n => (bound params n).bind fun p => (Cell.integer? p.value).map upTo

-- Binds the parameters, of which there must be as many as the statement has, and returns the rows.
def execute (plan : Plan (Row ν)) (r : Relation ν) (params : List (Param ν)) (s : Select) :
    Option (List (List ν)) :=
  if s.parameterCount = params.length then
    (s.limitOf params).bind fun limit =>
      (limit <| plan.order <| r.rows.filter fun row => s.conditions.all (·.holds params row)).mapM
        s.project
  else
    none

-- What is left to execute of a text that is a statement, over tables and columns that exist.
def prepare (catalog : Catalog ν) (text : String) : Option (Select × Relation ν) :=
  ((lex .between text.toList).bind parse).bind fun s => (s.source catalog).bind fun r =>
    if (∀ c ∈ s.column :: s.columns ++ s.conditions.map (·.column), c ∈ r.columns) ∧
        (∀ f ∈ s.conditions.filterMap Condition.function?, f ∈ catalog.functions) then
      some (s, r)
    else
      none

def query (plan : Plan (Row ν)) (catalog : Catalog ν) (text : String) (params : List (Param ν)) :
    Option (List (List ν)) :=
  (prepare catalog text).bind fun p => p.1.execute plan p.2 params

end Select

end

theorem Plan.exists_map {α : Type u} {β : Type v} (plan : Plan β) (f : α → β) (l : List α) :
    ∃ plan' : Plan α, plan.order (l.map f) = (plan'.order l).map f := by
  classical
  have ⟨l', hm, hp⟩ : Relation.Comp (· = List.map f ·) List.Perm (plan.order (l.map f)) l := by
    rw [List.eq_map_comp_perm]
    exact plan.perm _
  refine ⟨⟨fun k => if k = l then l' else k, fun k => ?_⟩, by simp [hm]⟩
  split
  case isTrue h  => exact h ▸ hp
  case isFalse _ => exact .refl k

theorem map_upTo {α : Type u} {β : Type v} {f : α → β} {limit : Int} {l : List α} :
    (upTo limit l).map f = upTo limit (l.map f) := by
  simp only [upTo]
  split
  case isTrue  => rfl
  case isFalse => exact List.map_take

theorem bound_append_cons {α : Type u} {l l' : List α} {a : α} :
    bound (l ++ a :: l') (l.length + 1) = some a := by
  simp [bound]

theorem foldr_max_range' {n k : Nat} : (List.range' 1 n).foldr max k = max n k := by
  induction n generalizing k
  case zero      => simp
  case succ n hi =>
    rw [List.range'_1_concat, List.foldr_append, hi, List.foldr_cons, List.foldr_nil]
    omega

theorem Select.parameterCount_of_placeholders {s : Select} {n : Nat}
    (h : s.placeholders = List.range' 1 n) : s.parameterCount = n := by
  rw [parameterCount, h, foldr_max_range', Nat.max_zero]

theorem Relation.rows_join {α β : Type v} {ν : Type u} [Cell ν] [DecidableEq ν]
    {r r' : Relation ν} {left right : Column} {l : List α} {l' : List β} {f : α → Row ν}
    {g : β → Row ν} {p : α → β → Bool} (hr : r.rows = l.map f) (hr' : r'.rows = l'.map g)
    (he : ∀ a b, equal ((f a ++ g b).lookup left) ((f a ++ g b).lookup right) = p a b) :
    (r.join r' left right).rows =
      l.flatMap fun a => (l'.filter (p a)).map fun b => f a ++ g b := by
  simp only [join, hr, hr', List.flatMap_map, List.filterMap_map]
  refine List.flatMap_congr fun a _ => ?_
  rw [← List.filterMap_eq_map', ← List.filterMap_eq_filter, List.filterMap_filterMap]
  refine List.filterMap_congr fun b _ => ?_
  cases hp : p a b <;> simp [he, hp, Option.guard]

theorem upTo_eq_self {α : Type u} {l : List α} {n : Int} (h : l.length ≤ n) : upTo n l = l := by
  rw [upTo, if_neg (by omega), List.take_of_length_le (by omega)]

theorem Select.execute_map {α : Type v} {ν : Type u} [Cell ν] [DecidableEq ν] {s : Select}
    {r : Relation ν} {params : List (Param ν)} {l : List α} {f : α → Row ν} {g : α → List ν}
    {p : α → Bool} {limit : Int} (plan : Plan (Row ν)) (hr : r.rows = l.map f)
    (hn : s.parameterCount = params.length) (hl : s.limitOf params = some (upTo limit))
    (hc : ∀ a, s.conditions.all (·.holds params (f a)) = p a)
    (hp : ∀ a, s.project (f a) = some (g a)) :
    ∃ plan' : Plan α,
      s.execute plan r params = some ((upTo limit <| plan'.order <| l.filter p).map g) := by
  have hf : (r.rows.filter fun row => s.conditions.all (·.holds params row)) =
      (l.filter p).map f := by
    rw [hr, List.filter_map]
    exact congrArg _ <| List.filter_congr fun a _ => hc a
  obtain ⟨plan', ho⟩ := plan.exists_map f (l.filter p)
  refine ⟨plan', ?_⟩
  rw [execute, if_pos hn, hl, Option.bind_some, hf, ho, ← map_upTo, List.mapM_map]
  exact Loop.mapM_eq_map fun a _ => hp a

end Sql
