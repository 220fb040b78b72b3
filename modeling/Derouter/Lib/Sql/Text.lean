import Mathlib.Data.List.Basic

-- The text of a `SELECT` with numbered parameters: its tokens and its syntax.

namespace Sql

inductive Keyword
  | SELECT | FROM | JOIN | ON | WHERE | AND | IN | LIMIT
deriving DecidableEq

namespace Keyword

def all : List Keyword :=
  [SELECT, FROM, JOIN, ON, WHERE, AND, IN, LIMIT]

def spelling : Keyword → List Char
  | SELECT => ['S', 'E', 'L', 'E', 'C', 'T']
  | FROM   => ['F', 'R', 'O', 'M']
  | JOIN   => ['J', 'O', 'I', 'N']
  | ON     => ['O', 'N']
  | WHERE  => ['W', 'H', 'E', 'R', 'E']
  | AND    => ['A', 'N', 'D']
  | IN     => ['I', 'N']
  | LIMIT  => ['L', 'I', 'M', 'I', 'T']

end Keyword

inductive Token
  | keyword (k : Keyword)
  | name (s : String)
  -- `?1`, `?2` and so on.
  | param (n : Nat)
  | comma
  | dot
  | equal
  | greater
  | lparen
  | rparen
deriving DecidableEq

-- A word is a keyword, in upper or lower case, or a name.
def Token.ofWord (w : List Char) : Token :=
  match Keyword.all.find? (·.spelling = w.map Char.toUpper) with
  | some k => keyword k
  | none   => name (String.ofList w)

-- What the lexer is in the middle of.
inductive Mode
  | between
  | word (w : List Char)
  | param (digits : List Char)
  | minus
  -- A comment ends with its line.
  | comment
deriving DecidableEq

namespace Mode

def isWordChar (c : Char) : Bool :=
  c.isAlphanum || c == '_'

-- The tokens that are complete when nothing is added to them.
def close : Mode → Option (List Token)
  | between  => some []
  | word w   => some [.ofWord w]
  | param [] => none
  | param ds => some [.param (Nat.ofDigitChars 10 ds 0)]
  | minus    => none
  | comment  => some []

-- A character in front of which a token has ended.
def start (c : Char) : Option (Mode × List Token) :=
  if c.isWhitespace then
    some (between, [])
  else if c.isAlpha || c == '_' then
    some (word [c], [])
  else
    match c with
    | '?' => some (param [], [])
    | '-' => some (minus, [])
    | ',' => some (between, [.comma])
    | '.' => some (between, [.dot])
    | '=' => some (between, [.equal])
    | '>' => some (between, [.greater])
    | '(' => some (between, [.lparen])
    | ')' => some (between, [.rparen])
    | _   => none

-- The character may belong to the token that the lexer is in the middle of.
def continues : Mode → Char → Option Mode
  | word w, c   => if isWordChar c then some (word (w ++ [c])) else none
  | param ds, c => if c.isDigit then some (param (ds ++ [c])) else none
  | minus, c    => if c = '-' then some comment else none
  | comment, c  => some (if c = '\n' then between else comment)
  | between, _  => none

def step (m : Mode) (c : Char) : Option (Mode × List Token) :=
  match m.continues c with
  | some m => some (m, [])
  | none   => m.close.bind fun closed => (start c).map fun p => (p.1, closed ++ p.2)

end Mode

-- The tokens of a part of a text, and what the lexer is then in the middle of.
def lexFrom (m : Mode) : List Char → Option (Mode × List Token)
  | []      => some (m, [])
  | c :: cs => (m.step c).bind fun p => (lexFrom p.1 cs).map fun q => (q.1, p.2 ++ q.2)

def lex (m : Mode) (cs : List Char) : Option (List Token) :=
  (lexFrom m cs).bind fun p => p.1.close.map (p.2 ++ ·)

-- A blank comes first.
def Blank (cs : List Char) : Prop :=
  ∃ b rest, cs = b :: rest ∧ b.isWhitespace = true

variable {m m' : Mode} {c : Char} {cs cs' ds : List Char} {ts ts' : List Token} {n : Nat}

theorem lexFrom_append (h : lexFrom m cs = some (m', ts)) :
    lexFrom m (cs ++ cs') = (lexFrom m' cs').map fun p => (p.1, ts ++ p.2) := by
  induction cs generalizing m ts
  case nil =>
    obtain ⟨rfl, rfl⟩ := Prod.mk.inj (Option.some.inj h)
    simp
  case cons c cs hi =>
    simp only [lexFrom, Option.bind_eq_some_iff, Option.map_eq_some_iff] at h
    obtain ⟨p, hp, q, hq, h⟩ := h
    obtain ⟨rfl, rfl⟩ := Prod.mk.inj h
    simp [lexFrom, hp, hi hq, Function.comp_def]

theorem lex_append (h : lexFrom m cs = some (m', ts)) :
    lex m (cs ++ cs') = (lex m' cs').map (ts ++ ·) := by
  simp only [lex, lexFrom_append h]
  cases lexFrom m' cs'
  case none   => rfl
  case some p => simp [Function.comp_def]

theorem lexFrom_toList {s : String} {r : Option (Mode × List Token)} (hs : s = String.ofList cs)
    (h : lexFrom m cs = r) : lexFrom m s.toList = r := by
  rw [hs, String.toList_ofList, h]

theorem lexFrom_and : lexFrom .between " AND ".toList = some (.between, [.keyword .AND]) :=
  lexFrom_toList rfl (by decide +kernel)

theorem lexFrom_digits (h : ∀ d ∈ cs, d.isDigit) :
    lexFrom (.param ds) cs = some (.param (ds ++ cs), []) := by
  induction cs generalizing ds
  case nil => simp [lexFrom]
  case cons c cs hi =>
    obtain ⟨hc, hcs⟩ := List.forall_mem_cons.mp h
    simp [lexFrom, Mode.step, Mode.continues, hc, hi hcs]

theorem lexFrom_toDigits :
    lexFrom (.param []) (Nat.toDigits 10 n) = some (.param (Nat.toDigits 10 n), []) :=
  lexFrom_digits fun _ => Nat.isDigit_of_mem_toDigits (by decide) (by decide)

theorem close_toDigits : (Mode.param (Nat.toDigits 10 n)).close = some [.param n] := by
  have hn := Nat.ofDigitChars_ten_toDigits (n := n)
  cases hd : Nat.toDigits 10 n
  case nil       => exact absurd hd Nat.toDigits_ne_nil
  case cons d ds => rw [Mode.close, ← hd, hn]; nofun

-- A token ends in front of a character that does not continue it.
theorem lex_of_close (hc : m.continues c = none) (h : m.close = some ts) :
    lex m (c :: cs) = (lex .between (c :: cs)).map (ts ++ ·) := by
  have hm : m.step c = (Mode.start c).map fun p => (p.1, ts ++ p.2) := by simp [Mode.step, hc, h]
  have hb : Mode.between.step c = (Mode.start c).map fun p => (p.1, p.2) := rfl
  simp only [lex, lexFrom, hm, hb]
  cases Mode.start c
  case none   => rfl
  case some p =>
    simp only [Option.map_some, Option.bind_some]
    cases lexFrom p.1 cs <;> simp [Function.comp_def]

theorem lex_toDigits (hc : c.isDigit = false) :
    lex (.param []) (Nat.toDigits 10 n ++ c :: cs) = (lex .between (c :: cs)).map (.param n :: ·) := by
  rw [lex_append lexFrom_toDigits, lex_of_close (by simp [Mode.continues, hc]) close_toDigits]
  simp [Function.comp_def]

theorem lex_toString {s : String} (h : lexFrom .between s.toList = some (.param [], ts))
    (hc : c.isDigit = false) : lex .between ((s ++ toString n).toList ++ c :: cs) =
      (lex .between (c :: cs)).map (ts ++ .param n :: ·) := by
  rw [String.toList_append, List.append_assoc, lex_append h, Nat.toString_eq_repr, Nat.toList_repr,
    lex_toDigits hc, Option.map_map]
  rfl

theorem lex_toString_nil {s : String} (h : lexFrom .between s.toList = some (.param [], ts)) :
    lex .between (s ++ toString n).toList = some (ts ++ [.param n]) := by
  rw [String.toList_append, lex_append h, Nat.toString_eq_repr, Nat.toList_repr, lex,
    lexFrom_toDigits, Option.bind_some, close_toDigits]
  rfl

theorem Blank.not_isDigit (h : Blank cs) : ∃ b rest, cs = b :: rest ∧ b.isDigit = false := by
  obtain ⟨b, rest, rfl, hb⟩ := h
  refine ⟨b, rest, rfl, ?_⟩
  simp only [Char.isWhitespace, Bool.or_eq_true, decide_eq_true_eq] at hb
  rcases hb with ((rfl | rfl) | rfl) | rfl <;> rfl

-- A column, with the name of its table.
structure Column where
  table : String
  name  : String
deriving DecidableEq

-- `JOIN table ON left = right`.
structure Join where
  table : String
  left  : Column
  right : Column

inductive Condition
  -- `column > ?1`.
  | greater (column : Column) (param : Nat)
  -- `column IN function(?1)`.
  | inTable (column : Column) (function : String) (param : Nat)

structure Select where
  -- There is at least one column.
  column     : Column
  columns    : List Column
  table      : String
  joins      : List Join
  -- Without conditions, there is no `WHERE`.
  conditions : List Condition
  limit      : Option Nat

def Column.tokens (c : Column) : List Token :=
  [.name c.table, .dot, .name c.name]

def Join.tokens (j : Join) : List Token :=
  .keyword .JOIN :: .name j.table :: .keyword .ON :: j.left.tokens ++ .equal :: j.right.tokens

namespace Condition

def tokens : Condition → List Token
  | greater column param          => column.tokens ++ [.greater, .param param]
  | inTable column function param =>
    column.tokens ++ [.keyword .IN, .name function, .lparen, .param param, .rparen]

def param : Condition → Nat
  | greater _ param   => param
  | inTable _ _ param => param

-- Conditions with `AND` between them.
def conjunction : List Condition → List Token
  | []      => []
  | c :: cs => c.tokens ++ cs.flatMap (.keyword .AND :: ·.tokens)

end Condition

namespace Select

def where? : List Condition → List Token
  | [] => []
  | cs => .keyword .WHERE :: Condition.conjunction cs

def limit? : Option Nat → List Token
  | none   => []
  | some n => [.keyword .LIMIT, .param n]

def tokens (s : Select) : List Token :=
  .keyword .SELECT :: s.column.tokens ++ s.columns.flatMap (.comma :: ·.tokens) ++
    .keyword .FROM :: .name s.table :: s.joins.flatMap (·.tokens) ++ where? s.conditions ++
    limit? s.limit

end Select

-- What follows the first column, up to the first token that does not belong to another one.
def parseColumns : List Token → List Column × List Token
  | .comma :: .name t :: .dot :: .name c :: ts =>
    let (cs, ts) := parseColumns ts
    (⟨t, c⟩ :: cs, ts)
  | ts => ([], ts)

def parseJoins : List Token → List Join × List Token
  | .keyword .JOIN :: .name t :: .keyword .ON :: .name t₁ :: .dot :: .name c₁ :: .equal ::
      .name t₂ :: .dot :: .name c₂ :: ts =>
    let (js, ts) := parseJoins ts
    (⟨t, ⟨t₁, c₁⟩, ⟨t₂, c₂⟩⟩ :: js, ts)
  | ts => ([], ts)

-- The conditions that follow `WHERE` or another condition.
def parseConditions (after : Token) : List Token → List Condition × List Token
  | k :: .name t :: .dot :: .name c :: .greater :: .param n :: ts =>
    if k = after then
      let (cs, ts) := parseConditions (.keyword .AND) ts
      (.greater ⟨t, c⟩ n :: cs, ts)
    else
      ([], k :: .name t :: .dot :: .name c :: .greater :: .param n :: ts)
  | k :: .name t :: .dot :: .name c :: .keyword .IN :: .name f :: .lparen :: .param n :: .rparen ::
      ts =>
    if k = after then
      let (cs, ts) := parseConditions (.keyword .AND) ts
      (.inTable ⟨t, c⟩ f n :: cs, ts)
    else
      ([], k :: .name t :: .dot :: .name c :: .keyword .IN :: .name f :: .lparen :: .param n ::
        .rparen :: ts)
  | ts => ([], ts)

def parse : List Token → Option Select
  | .keyword .SELECT :: .name t :: .dot :: .name c :: ts =>
    match parseColumns ts with
    | (columns, .keyword .FROM :: .name table :: ts) =>
      let (joins, ts) := parseJoins ts
      let (conditions, ts) := parseConditions (.keyword .WHERE) ts
      match ts with
      | []                           => some ⟨⟨t, c⟩, columns, table, joins, conditions, none⟩
      | [.keyword .LIMIT, .param n]  => some ⟨⟨t, c⟩, columns, table, joins, conditions, some n⟩
      | _                            => none
    | _ => none
  | _ => none

variable {cols : List Column} {joins : List Join} {conditions : List Condition} {k : Keyword}

theorem parseColumns_tokens :
    parseColumns (cols.flatMap (.comma :: ·.tokens) ++ .keyword k :: ts) =
      (cols, .keyword k :: ts) := by
  induction cols
  case nil          => rfl
  case cons c cs hi => simp [Column.tokens, parseColumns] at hi ⊢; simp [hi]

theorem parseJoins_tokens (hk : ∀ ts', ts ≠ .keyword .JOIN :: ts') :
    parseJoins (joins.flatMap (·.tokens) ++ ts) = (joins, ts) := by
  induction joins
  case nil =>
    rw [List.flatMap_nil, List.nil_append, parseJoins]
    intro t t₁ c₁ t₂ c₂ ts' h
    exact hk _ h
  case cons j js hi => simp [Join.tokens, Column.tokens, parseJoins] at hi ⊢; simp [hi]

theorem parseConditions_of_ne {after : Token} (h : ∀ ts', ts ≠ after :: ts') :
    parseConditions after ts = ([], ts) := by
  unfold parseConditions
  split
  case h_1 k _ _ _ _ =>
    rw [if_neg]
    rintro rfl
    exact h _ rfl
  case h_2 k _ _ _ _ _ =>
    rw [if_neg]
    rintro rfl
    exact h _ rfl
  case h_3 => rfl

theorem parseConditions_cons {after : Token} {c : Condition} :
    parseConditions after (after :: c.tokens ++ ts) =
      (c :: (parseConditions (.keyword .AND) ts).1, (parseConditions (.keyword .AND) ts).2) := by
  cases c <;> simp [Condition.tokens, Column.tokens, parseConditions]

theorem parseConditions_and (h : ∀ ts', ts ≠ .keyword .AND :: ts') :
    parseConditions (.keyword .AND) (conditions.flatMap (.keyword .AND :: ·.tokens) ++ ts) =
      (conditions, ts) := by
  induction conditions
  case nil          => exact parseConditions_of_ne h
  case cons c cs hi =>
    rw [List.flatMap_cons, List.append_assoc, parseConditions_cons, hi]

theorem parseConditions_where {l : Option Nat} :
    parseConditions (.keyword .WHERE) (Select.where? conditions ++ Select.limit? l) =
      (conditions, Select.limit? l) := by
  cases conditions
  case nil => exact parseConditions_of_ne (by cases l <;> simp [Select.where?, Select.limit?])
  case cons c cs =>
    rw [Select.where?, Condition.conjunction, ← List.cons_append, List.append_assoc,
      parseConditions_cons, parseConditions_and (by cases l <;> simp [Select.limit?])]
    nofun

-- The syntax is unambiguous.
theorem parse_tokens (s : Select) : parse s.tokens = some s := by
  obtain ⟨⟨t, c⟩, columns, table, joins, conditions, limit⟩ := s
  have hj : ∀ ts', Select.where? conditions ++ Select.limit? limit ≠ .keyword .JOIN :: ts' := by
    cases conditions <;> cases limit <;> simp [Select.where?, Select.limit?]
  have hc : Column.tokens ⟨t, c⟩ = [.name t, .dot, .name c] := rfl
  simp only [Select.tokens, hc, List.cons_append, List.nil_append, List.append_assoc, parse,
    parseColumns_tokens, parseJoins_tokens hj, parseConditions_where]
  cases limit <;> rfl

end Sql
