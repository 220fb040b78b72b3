import Derouter.Db.Queries
import Derouter.Db.ServiceJobs.QueryAll

open Sql

namespace Derouter

-- A joined row, as the statement sees it.
def JobJoin.row (j : JobJoin) : Row Value :=
  j.job.row j.rowid ++ j.snapshot.row j.job.offerSnapshotRowid

-- The statement that the text of a query is to be.
def jobsSelect (conditions : List Condition) (limit : Option Nat) : Select where
  column     := serviceJobs "rowid"
  columns    := [
    offerSnapshots "provider_peer_id",
    serviceJobs "consumer_peer_id",
    offerSnapshots "rowid",
    serviceJobs "currency",
    serviceJobs "balance_delta",
    serviceJobs "public_payload",
    serviceJobs "private_payload",
    serviceJobs "reason",
    serviceJobs "reason_class",
    serviceJobs "created_at_local",
    serviceJobs "created_at_sync",
    serviceJobs "completed_at_local",
    serviceJobs "completed_at_sync",
    serviceJobs "signature_confirmed_at_local",
    serviceJobs "confirmation_error",
    offerSnapshots "protocol_id",
    serviceJobs "provider_job_id",
    offerSnapshots "offer_id",
    offerSnapshots "active",
    offerSnapshots "protocol_payload"
  ]
  table      := "service_jobs"
  joins      := [⟨"offer_snapshots", offerSnapshots "rowid", serviceJobs "offer_snapshot_rowid"⟩]
  conditions
  limit

variable {db : Database} {conditions : List Condition} {limit : Option Nat}

theorem source_jobsSelect (db : Database) (conditions : List Condition) (limit : Option Nat) :
    ∃ r, (jobsSelect conditions limit).source db.catalog = some r ∧
      r.columns = JobRow.sqlColumns ++ OfferSnapshotRow.sqlColumns ∧
      r.rows = db.joined.map JobJoin.row := by
  refine ⟨_, rfl, rfl, ?_⟩
  have he (r : Rowid × JobRow) (s : Rowid × OfferSnapshotRow) :
      equal ((r.2.row r.1 ++ s.2.row s.1).lookup (offerSnapshots "rowid"))
          ((r.2.row r.1 ++ s.2.row s.1).lookup (serviceJobs "offer_snapshot_rowid")) =
        decide (s.1 = r.2.offerSnapshotRowid) := by
    have hl : (r.2.row r.1 ++ s.2.row s.1).lookup (offerSnapshots "rowid") =
      some (.integer s.1) := rfl
    have hr : (r.2.row r.1 ++ s.2.row s.1).lookup (serviceJobs "offer_snapshot_rowid") =
      some (.integer r.2.offerSnapshotRowid) := rfl
    simp [hl, hr, equal, Cell.null]
  rw [Relation.rows_join rfl rfl he, Database.joined, List.filterMap_eq_flatMap_toList,
    List.map_flatMap]
  refine List.flatMap_congr fun r _ => ?_
  rw [Table.filter_rows_eq]
  cases db.offerSnapshots.get? r.2.offerSnapshotRowid <;> rfl

theorem Value.toOption?_ofOption {α : Type} {f : α → Value} {g : Value → Option α}
    (hg : ∀ a, g (f a) = some a) (hn : ∀ a, f a ≠ .null) (o : Option α) :
    (ofOption f o).toOption? g = some o := by
  cases o
  case none   => rfl
  case some a =>
    have ha := hn a
    have hf := hg a
    rw [ofOption]
    cases hv : f a <;> simp_all [toOption?]

theorem Value.toBool?_ofBool (b : Bool) : (ofBool b).toBool? = some b := by
  cases b <;> rfl

theorem Currency.ofInt?_toInt (c : Currency) : ofInt? c.toInt = some c := by
  cases c
  rfl

theorem ofValues?_project (conditions : List Condition) (limit : Option Nat) (j : JobJoin) :
    ∃ values, (jobsSelect conditions limit).project j.row = some values ∧
      JobRecord.ofValues? values = some j.record := by
  refine ⟨_, rfl, ?_⟩
  have ht := Value.toOption?_ofOption (f := .text) (g := Value.toText?) (fun _ => rfl) nofun
  have hi := Value.toOption?_ofOption (f := .integer) (g := Value.toInt?) (fun _ => rfl) nofun
  have hd := Value.toOption?_ofOption (f := .timestamp) (g := Value.toDateTime?) (fun _ => rfl) nofun
  simp [JobRecord.ofValues?, ht, hi, hd, Value.toInt?, Value.toPeerId?, Value.toText?,
    Value.toDateTime?, Value.toBool?_ofBool, Currency.ofInt?_toInt, JobJoin.record]

-- The tokens of the text up to its conditions.
def selectTokens : List Token :=
  (jobsSelect [] none).tokens ++ [.keyword .WHERE]

set_option maxRecDepth 8000 in
theorem lexFrom_selectJobs : lexFrom .between selectJobs.toList = some (.between, selectTokens) :=
  lexFrom_toList rfl (by decide +kernel)

namespace Statement

-- What a statement that is put together has so far: its conditions, which are numbered like its
-- parameters, and the conjuncts that they stand for.
structure Assembled (s : Statement) (conditions : List Condition)
    (conjuncts : List (JobJoin → Bool)) : Prop where
  -- The last condition ends in front of a blank.
  lexes     : ∀ rest, (conditions ≠ [] → Blank rest) →
    lex .between (s.sql.toList ++ rest) =
      (lex .between rest).map (selectTokens ++ Condition.conjunction conditions ++ ·)
  params    : conditions.map (·.param) = List.range' 1 s.params.length
  length    : conditions.length = conjuncts.length
  holds     : ∀ more j,
    conditions.all (·.holds (s.params ++ more) j.row) = conjuncts.all (· j)
  columns   : ∀ c ∈ conditions.map Condition.column,
    c ∈ JobRow.sqlColumns ++ OfferSnapshotRow.sqlColumns
  functions : ∀ f ∈ conditions.filterMap Condition.function?, f = "rarray"

variable {s : Statement} {conditions : List Condition} {conjuncts : List (JobJoin → Bool)}

theorem Assembled.length_params (h : s.Assembled conditions conjuncts) :
    s.params.length = conditions.length := by
  have hl := congrArg List.length h.params
  rw [List.length_map, List.length_range'] at hl
  exact hl.symm

theorem Assembled.isEmpty_iff (h : s.Assembled conditions conjuncts) :
    conjuncts.isEmpty = true ↔ conditions = [] := by
  rw [List.isEmpty_iff, ← List.length_eq_zero_iff, ← h.length, List.length_eq_zero_iff]

theorem assembled_new : (Statement.mk selectJobs []).Assembled [] [] where
  lexes rest _ := by rw [lex_append lexFrom_selectJobs, Condition.conjunction, List.append_nil]
  params       := rfl
  length       := rfl
  holds _ _    := rfl
  columns      := nofun
  functions    := nofun

-- The text of a condition, as long as a blank follows.
def Lexes (text : String) (c : Condition) : Prop :=
  ∀ rest, Blank rest → lex .between (text.toList ++ rest) = (lex .between rest).map (c.tokens ++ ·)

-- One more condition, with `AND` in front of it unless it is the first.
theorem Assembled.concat {text : String} {c : Condition} {p : Param Value} {f : JobJoin → Bool}
    (h : s.Assembled conditions conjuncts) (hl : Lexes text c)
    (hp : c.param = s.params.length + 1)
    (hf : ∀ params (j : JobJoin), bound params c.param = some p → c.holds params j.row = f j)
    (hc : c.column ∈ JobRow.sqlColumns ++ OfferSnapshotRow.sqlColumns)
    (hr : ∀ g ∈ c.function?, g = "rarray") :
    Assembled
      { sql    := s.sql ++ (if s.params.isEmpty then "" else " AND ") ++ text
        params := s.params ++ [p] }
      (conditions ++ [c]) (conjuncts ++ [f]) := by
  constructor
  case lexes =>
    intro rest hb
    have hl := hl rest (hb (by simp))
    simp only [String.toList_append, List.append_assoc]
    cases hn : conditions
    case nil =>
      have hs : s.params = [] := List.length_eq_zero_iff.mp (by rw [h.length_params, hn]; rfl)
      have h := h.lexes (text.toList ++ rest) (absurd hn)
      simp [h, hl, hs, hn, Condition.conjunction, Function.comp_def]
    case cons d ds =>
      have hs : s.params.isEmpty = false := by
        rw [List.isEmpty_eq_false_iff, ← List.length_pos_iff, h.length_params, hn]
        exact Nat.succ_pos _
      have h := h.lexes (" AND ".toList ++ (text.toList ++ rest)) fun _ =>
        ⟨' ', _, rfl, by decide⟩
      rw [hs, if_neg Bool.false_ne_true, h, lex_append lexFrom_and, hl]
      simp [hn, Condition.conjunction, Function.comp_def]
  case params =>
    simp only [List.map_append, h.params, List.map_singleton, List.length_append,
      List.length_singleton, List.range'_1_concat, hp, Nat.add_comm 1]
  case length => simp [h.length]
  case holds =>
    intro more j
    have ha := h.holds (p :: more) j
    have hb : bound (s.params ++ [p] ++ more) c.param = some p := by
      rw [hp, List.append_assoc]
      exact bound_append_cons
    rw [List.append_assoc] at hb ⊢
    simp only [List.all_append, List.cons_append, List.nil_append] at hb ⊢
    rw [ha]
    simp [hf _ j hb]
  case columns =>
    rw [List.map_append]
    exact List.forall_mem_append.mpr ⟨h.columns, by simpa using hc⟩
  case functions =>
    rw [List.filterMap_append]
    refine List.forall_mem_append.mpr ⟨h.functions, fun g hg => hr g ?_⟩
    simpa using hg

theorem assembled_greaterThanRowid (cursor : Option Rowid) : ∃ conditions,
    ((Statement.mk selectJobs []).greaterThanRowid cursor).Assembled conditions
      (cursor.map fun c (j : JobJoin) => decide (c < j.rowid)).toList := by
  cases cursor
  case none        => exact ⟨[], assembled_new⟩
  case some cursor =>
    have hl : Lexes ("service_jobs.rowid > ?" ++ toString 1) (.greater (serviceJobs "rowid") 1) := by
      intro rest hb
      obtain ⟨b, rest, rfl, hd⟩ := hb.not_isDigit
      have ht : lexFrom .between "service_jobs.rowid > ?".toList =
          some (.param [], (serviceJobs "rowid").tokens ++ [.greater]) :=
        lexFrom_toList rfl (by decide +kernel)
      rw [lex_toString ht hd]
      rfl
    have hf (params : List (Param Value)) (j : JobJoin)
        (hb : bound params 1 = some (.single (.integer cursor))) :
        (Condition.greater (serviceJobs "rowid") 1).holds params j.row =
          decide (cursor < j.rowid) := by
      have hk : j.row.lookup (serviceJobs "rowid") = some (.integer j.rowid) := rfl
      simp [Condition.holds, hk, hb, Cell.gt, Param.value]
    have ha := assembled_new.concat hl rfl hf (by decide) nofun
    refine ⟨[.greater (serviceJobs "rowid") 1], ?_⟩
    simpa [Statement.greaterThanRowid, String.append_assoc] using ha

theorem Assembled.andInArray {κ : Type} [DecidableEq κ] {w : List Char} {table name : String}
    (h : s.Assembled conditions conjuncts) (column : String) (value : κ → Value) (key : JobJoin → κ)
    (ht : lexFrom .between column.toList = some (.word w, [.name table, .dot]))
    (hw : Token.ofWord w = .name name)
    (hc : ⟨table, name⟩ ∈ JobRow.sqlColumns ++ OfferSnapshotRow.sqlColumns)
    (hv : ∀ a b, value a = value b → a = b) (hn : ∀ a, value a ≠ .null)
    (hk : ∀ j : JobJoin, j.row.lookup ⟨table, name⟩ = some (value (key j)))
    (ids : Option (List κ)) : ∃ conditions',
      (s.andInArray column (ids.map (·.map value))).Assembled conditions'
        (conjuncts ++ inArray key ids) := by
  cases ids
  case none     => exact ⟨conditions, by simpa [Statement.andInArray, inArray] using h⟩
  case some ids =>
    let c : Condition := .inTable ⟨table, name⟩ "rarray" (s.params.length + 1)
    have ht : lexFrom .between (column ++ " IN rarray(?").toList = some (.param [],
        [.name table, .dot, .name name, .keyword .IN, .name "rarray", .lparen]) := by
      have hi : lexFrom (.word w) " IN rarray(?".toList = some (.param [],
          [.ofWord w, .keyword .IN, .name "rarray", .lparen]) := lexFrom_toList rfl rfl
      rw [String.toList_append, lexFrom_append ht, hi, hw]
      rfl
    have hl : Lexes (column ++ " IN rarray(?" ++ toString (s.params.length + 1) ++ ")") c := by
      intro rest _
      have hp : ")".toList = [')'] := String.toList_ofList
      have hc : lexFrom .between [')'] = some (.between, [.rparen]) := rfl
      have hr : lex .between (')' :: rest) = (lex .between rest).map ([.rparen] ++ ·) := lex_append hc
      rw [String.toList_append, List.append_assoc, hp, List.singleton_append,
        lex_toString ht (by decide), hr, Option.map_map]
      rfl
    have hf (params : List (Param Value)) (j : JobJoin)
        (hb : bound params (s.params.length + 1) = some (.array (ids.map value))) :
        c.holds params j.row = decide (key j ∈ ids) := by
      have hm : value (key j) ∈ ids.map value ↔ key j ∈ ids :=
        ⟨fun h => by
          obtain ⟨a, ha, he⟩ := List.mem_map.mp h
          exact hv _ _ he ▸ ha, List.mem_map_of_mem⟩
      rw [Condition.holds, hk]
      simp [hb, hn, hm, Cell.null]
    have ha := h.concat hl rfl hf hc (by simp [c, Condition.function?])
    refine ⟨conditions ++ [c], ?_⟩
    simpa [Statement.andInArray, inArray, String.append_assoc] using ha

theorem assembled_queryJobs (cursor : Option Rowid) (ps : Option (List String))
    (qs cs : Option (List PeerId)) : ∃ (s : Statement) (conditions : List Condition),
      s.Assembled conditions (jobConjuncts cursor ps qs cs) ∧
        ∀ limit, queryJobsStatement cursor ps qs cs limit = s.withLimit limit := by
  obtain ⟨c₀, h₀⟩ := assembled_greaterThanRowid cursor
  obtain ⟨c₁, h₁⟩ := h₀.andInArray "offer_snapshots.protocol_id" .text (·.columns.protocolId)
    (lexFrom_toList rfl rfl) rfl (by decide) (fun _ _ => Value.text.inj) nofun (fun _ => rfl) ps
  obtain ⟨c₂, h₂⟩ := h₁.andInArray "offer_snapshots.provider_peer_id" .base58
    (·.columns.providerPeerId) (lexFrom_toList rfl rfl) rfl (by decide)
    (fun _ _ => Value.base58.inj) nofun (fun _ => rfl) qs
  obtain ⟨c₃, h₃⟩ := h₂.andInArray "service_jobs.consumer_peer_id" .base58
    (·.columns.consumerPeerId) (lexFrom_toList rfl rfl) rfl (by decide)
    (fun _ _ => Value.base58.inj) nofun (fun _ => rfl) cs
  refine ⟨_, c₃, ?_, fun limit => rfl⟩
  simpa only [jobConjuncts, jobFilters, List.map_append, map_inArray, List.append_assoc] using h₃

variable {l : Int}

theorem Assembled.lex_withLimit (h : s.Assembled conditions conjuncts) :
    lex .between (s.withLimit l).sql.toList = some (selectTokens ++
      Condition.conjunction conditions ++ [.keyword .LIMIT, .param (s.params.length + 1)]) := by
  have hl : lexFrom .between "\nLIMIT ?".toList = some (.param [], [.keyword .LIMIT]) :=
    lexFrom_toList rfl rfl
  have hb : Blank ("\nLIMIT ?" ++ toString (s.params.length + 1)).toList := by
    rw [String.toList_append]
    exact ⟨'\n', _, rfl, by decide⟩
  rw [Statement.withLimit, String.append_assoc, String.toList_append, h.lexes _ fun _ => hb,
    lex_toString_nil hl]
  rfl

theorem Assembled.placeholders_withLimit (h : s.Assembled conditions conjuncts) :
    (jobsSelect conditions (some (s.params.length + 1))).placeholders =
      List.range' 1 (s.withLimit l).params.length := by
  rw [Statement.withLimit, List.length_append, List.length_singleton, List.range'_1_concat,
    ← h.params, Nat.add_comm 1]
  rfl

-- Without conditions, `WHERE` is followed by `LIMIT`.
theorem Assembled.prepare_eq_none (h : s.Assembled [] conjuncts) :
    Select.prepare db.catalog (s.withLimit l).sql = none := by
  have hp : (parse (selectTokens ++ Condition.conjunction [] ++
      [.keyword .LIMIT, .param (s.params.length + 1)])).isNone = true := rfl
  rw [Select.prepare, h.lex_withLimit, Option.bind_some, Option.isNone_iff_eq_none.mp hp]
  rfl

theorem Assembled.prepare_eq_some (h : s.Assembled conditions conjuncts) (hn : conditions ≠ []) :
    ∃ r, Select.prepare db.catalog (s.withLimit l).sql =
        some (jobsSelect conditions (some (s.params.length + 1)), r) ∧
      r.rows = db.joined.map JobJoin.row := by
  have ht : selectTokens ++ Condition.conjunction conditions ++
      [.keyword .LIMIT, .param (s.params.length + 1)] =
        (jobsSelect conditions (some (s.params.length + 1))).tokens := by
    cases conditions
    case nil  => exact absurd rfl hn
    case cons => rfl
  obtain ⟨r, hs, hc, hr⟩ := source_jobsSelect db conditions (some (s.params.length + 1))
  have hj : ∀ c ∈ (jobsSelect [] none).column :: (jobsSelect [] none).columns,
      c ∈ JobRow.sqlColumns ++ OfferSnapshotRow.sqlColumns := by decide
  refine ⟨r, ?_, hr⟩
  rw [Select.prepare, h.lex_withLimit, Option.bind_some, ht, parse_tokens, Option.bind_some, hs,
    Option.bind_some, if_pos]
  rw [hc]
  refine ⟨List.forall_mem_append.mpr ⟨hj, h.columns⟩, fun f hf => ?_⟩
  rw [h.functions f hf]
  exact List.mem_singleton_self _

end Statement

section

variable (plan : Plan (Row Value)) (db : Database) (cursor : Option Rowid) (ps : Option (List String))
variable (qs cs : Option (List PeerId)) (limit : Int)

theorem runQueryJobs_eq : ∃ plan' : Plan JobJoin,
    runQueryJobs plan db cursor ps qs cs limit = queryJobs plan' db cursor ps qs cs limit := by
  obtain ⟨s, conditions, h, hs⟩ := Statement.assembled_queryJobs cursor ps qs cs
  rw [runQueryJobs, hs]
  by_cases hn : conditions = []
  case pos =>
    subst hn
    refine ⟨.scan, ?_⟩
    rw [Select.query, h.prepare_eq_none, queryJobs, if_pos (h.isEmpty_iff.mpr rfl)]
    rfl
  case neg =>
    obtain ⟨r, hp, hr⟩ := h.prepare_eq_some hn
    choose g hg hv using ofValues?_project conditions (some (s.params.length + 1))
    have hl : (jobsSelect conditions (some (s.params.length + 1))).limitOf
        (s.withLimit limit).params = some (upTo limit) := by
      simp [Select.limitOf, jobsSelect, Statement.withLimit, bound_append_cons, Param.value,
        Cell.integer?]
    obtain ⟨plan', he'⟩ := Select.execute_map plan hr
      (Select.parameterCount_of_placeholders h.placeholders_withLimit) hl (h.holds _) hg
    refine ⟨plan', ?_⟩
    rw [Select.query, hp, Option.bind_some, he', Option.bind_some, queryJobs,
      if_neg (mt h.isEmpty_iff.mp hn), List.mapM_map]
    exact Loop.mapM_eq_map fun j _ => hv j

-- After the cursor, and in each of the lists.
structure JobJoin.Selected (j : JobJoin) : Prop where
  cursor         : ∀ c, cursor = some c → c < j.rowid
  protocolId     : ∀ l, ps = some l → j.snapshot.protocolId ∈ l
  providerPeerId : ∀ l, qs = some l → j.snapshot.providerPeerId ∈ l
  consumerPeerId : ∀ l, cs = some l → j.job.consumerPeerId ∈ l

theorem JobJoin.selected_iff {j : JobJoin} :
    j.Selected cursor ps qs cs ↔ (jobConjuncts cursor ps qs cs).all (· j) = true := by
  rw [all_jobConjuncts, all_jobFilters]
  exact ⟨fun h => ⟨h.1, h.2, h.3, h.4⟩, fun h => ⟨h.1, h.2.1, h.2.2.1, h.2.2.2⟩⟩

instance {j : JobJoin} : Decidable (j.Selected cursor ps qs cs) :=
  decidable_of_iff _ (j.selected_iff cursor ps qs cs).symm

-- The text is a statement whose parameters are those that were pushed, and it returns the jobs that
-- are selected.
structure QueriesExactly : Prop where
  valid : ∃ p, Select.prepare db.catalog (queryJobsStatement cursor ps qs cs limit).sql = some p ∧
    p.1.placeholders = List.range' 1 (queryJobsStatement cursor ps qs cs limit).params.length
  exact : ∃ jobs, runQueryJobs plan db cursor ps qs cs limit = some jobs ∧
    jobs.Perm ((db.joined.filter (JobJoin.Selected cursor ps qs cs ·)).map JobJoin.record)

end

variable {plan : Plan (Row Value)} {db : Database} {cursor : Option Rowid}
variable {ps : Option (List String)} {qs cs : Option (List PeerId)} {limit : Int}

-- The query has a condition.
def IsConditional (cursor : Option Rowid) (ps : Option (List String)) (qs cs : Option (List PeerId)) :
    Prop :=
  cursor.isSome ∨ ps.isSome ∨ qs.isSome ∨ cs.isSome

theorem isConditional_iff :
    IsConditional cursor ps qs cs ↔ (jobConjuncts cursor ps qs cs).isEmpty = false := by
  rw [IsConditional]
  cases cursor <;> cases ps <;> cases qs <;> cases cs <;> simp [jobConjuncts, jobFilters, inArray]

theorem QueriesExactly.isConditional (h : QueriesExactly plan db cursor ps qs cs limit) :
    IsConditional cursor ps qs cs := by
  obtain ⟨jobs, hj, _⟩ := h.exact
  obtain ⟨plan', he⟩ := runQueryJobs_eq plan db cursor ps qs cs limit
  rw [isConditional_iff, Bool.eq_false_iff]
  intro hn
  rw [he, queryJobs, if_pos hn] at hj
  contradiction

-- The query is a statement and is exact if and only if it has a condition.
theorem queriesExactly_iff
    (hm : (db.joined.filter (JobJoin.Selected cursor ps qs cs ·)).length ≤ limit) :
    QueriesExactly plan db cursor ps qs cs limit ↔ IsConditional cursor ps qs cs := by
  constructor
  case mp  => exact QueriesExactly.isConditional
  case mpr =>
    intro hc
    obtain ⟨s, conditions, h, hs⟩ := Statement.assembled_queryJobs cursor ps qs cs
    have hj : ¬(jobConjuncts cursor ps qs cs).isEmpty = true := by
      rw [isConditional_iff.mp hc]
      nofun
    constructor
    case valid =>
      obtain ⟨r, hp, _⟩ := h.prepare_eq_some (mt h.isEmpty_iff.mpr hj)
      exact ⟨_, hs limit ▸ hp, hs limit ▸ h.placeholders_withLimit⟩
    case exact =>
      obtain ⟨plan', he⟩ := runQueryJobs_eq plan db cursor ps qs cs limit
      have hf : db.joined.filter (fun j => (jobConjuncts cursor ps qs cs).all (· j)) =
          db.joined.filter (JobJoin.Selected cursor ps qs cs ·) :=
        List.filter_congr fun j _ => by
          rw [Bool.eq_iff_iff, decide_eq_true_iff, JobJoin.selected_iff]
      refine ⟨_, he.trans (if_neg hj), List.Perm.map _ ?_⟩
      have hp := plan'.perm (db.joined.filter (JobJoin.Selected cursor ps qs cs ·))
      have hu : limited limit (plan'.order (db.joined.filter (JobJoin.Selected cursor ps qs cs ·))) =
          plan'.order (db.joined.filter (JobJoin.Selected cursor ps qs cs ·)) :=
        upTo_eq_self (hp.length_eq ▸ hm)
      rw [hf, hu]
      exact hp

private def ofJob : Database :=
  let job : JobRow := {
    offerSnapshotRowid := 1
    consumerPeerId     := ⟨[1]⟩
    currency           := .polygon
    jobArgs            := none
    providerJobId      := "job"
    createdAtLocal     := 0
    createdAtSync      := 0
  }
  ((Database.ofOffer ⟨[0]⟩ "offer" "protocol" "payload").insertJob? job).elim ∅ (·.2)

-- The jobs of the Consumer 1 after the rowid 0.
theorem queriesExactly_iff_sample : QueriesExactly .scan ofJob (some 0) none none (some [⟨[1]⟩]) 1 ∧
    ∃ j ∈ ofJob.joined, j.Selected (some 0) none none (some [⟨[1]⟩]) :=
  ⟨(queriesExactly_iff (by decide +kernel)).mpr (.inl rfl), by decide +kernel⟩

-- A module asks for the first job, whatever it is for.
theorem not_queriesExactly : ¬∀ (plan : Plan (Row Value)) (db : Database) (cursor : Option Rowid)
    (ps : Option (List String)) (qs cs : Option (List PeerId)) (limit : Int),
    1 ≤ limit → limit ≤ 100 →
    (db.joined.filter (JobJoin.Selected cursor ps qs cs ·)).length ≤ limit →
    QueriesExactly plan db cursor ps qs cs limit := by
  intro h
  have hc := (h .scan ∅ none none none none 1 (by decide) (by decide) (by decide)).isConditional
  exact absurd hc (by simp [IsConditional])

end Derouter
