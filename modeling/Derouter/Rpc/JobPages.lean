import Derouter.Db.Theorems.Joined
import Derouter.Lib.Sql.Paging
import Derouter.Rpc.Requests

open Sql

namespace Derouter

section

variable (db : Database) (protocolIds : Option (List String))
variable (providerPeerIds consumerPeerIds : Option (List PeerId)) (limit : Int)
variable (plans : Nat → Plan JobJoin)

-- The jobs that the lists select.
def Database.selectedJobs : List JobJoin :=
  db.joined.filter fun j => (jobFilters protocolIds providerPeerIds consumerPeerIds).all (· j.columns)

-- A module gets one page after the other, each from the last job of the page before, until a page is
-- empty. The jobs of each page come in an order of their own.
def pageJobs : Nat → Nat → Rowid → Option (List JobRecord)
  | 0, _, _ => none
  | fuel + 1, k, cursor =>
    match handleJobsQueryRequest (plans k) db (some cursor) protocolIds providerPeerIds
      consumerPeerIds limit with
    | some (.ok jobs) =>
      match jobs.getLast? with
      | none     => some []
      | some job => (pageJobs fuel (k + 1) job.jobRowid).map (jobs ++ ·)
    | _ => none

-- There are no more pages than jobs, so this is fuel enough.
def pageAllJobs (cursor : Rowid) : Option (List JobRecord) :=
  pageJobs db protocolIds providerPeerIds consumerPeerIds limit plans (db.joined.length + 1) 0 cursor

-- The jobs after the cursor that the lists select, each of them once.
structure IsJobsAfter (cursor : Rowid) (jobs : List JobRecord) : Prop where
  ascending : jobs.Pairwise (·.jobRowid < ·.jobRowid)
  mem_iff   : ∀ job, job ∈ jobs ↔
    ∃ j ∈ db.selectedJobs protocolIds providerPeerIds consumerPeerIds,
      j.record = job ∧ cursor < j.rowid

end

variable {db : Database} {ps : Option (List String)} {qs cs : Option (List PeerId)} {limit : Int}
variable {plans : Nat → Plan JobJoin} {cursor : Rowid}

theorem Database.joined_ascending (db : Database) : db.joined.Pairwise (·.rowid < ·.rowid) := by
  refine List.pairwise_filterMap.mpr <| db.serviceJobs.sorted.imp fun {r r'} h => ?_
  intro j hj j' hj'
  obtain ⟨_, _, rfl⟩ := Option.map_eq_some_iff.mp hj
  obtain ⟨_, _, rfl⟩ := Option.map_eq_some_iff.mp hj'
  exact h

theorem queryJobs_eq_page {plan : Plan JobJoin} (hl : 0 ≤ limit) :
    queryJobs plan db (some cursor) ps qs cs limit = some ((Paging.page JobJoin.rowid
      (db.selectedJobs ps qs cs) plan limit.toNat cursor).map JobJoin.record) := by
  have hc : (jobConjuncts (some cursor) ps qs cs).isEmpty = false := rfl
  have hf : (db.joined.filter fun j => (jobConjuncts (some cursor) ps qs cs).all (· j)) =
      Paging.after JobJoin.rowid (db.selectedJobs ps qs cs) cursor := by
    rw [Paging.after, Database.selectedJobs, List.filter_filter]
    refine List.filter_congr fun j _ => ?_
    simp [jobConjuncts, List.all_map, Function.comp_def]
  simp only [queryJobs, hc, Bool.false_eq_true, if_false, hf, limited, not_lt.mpr hl, Paging.page]

theorem pageJobs_eq_collect (h₁ : 1 ≤ limit) (h₂ : limit ≤ 100) {fuel k : Nat} :
    pageJobs db ps qs cs limit plans fuel k cursor =
      (Paging.collect JobJoin.rowid (db.selectedJobs ps qs cs) plans limit.toNat fuel k cursor).map
        (·.map JobJoin.record) := by
  induction fuel generalizing k cursor
  case zero => rfl
  case succ fuel hi =>
    have hl : ¬(limit < 1 ∨ limit > 100) := by omega
    simp only [pageJobs, handleJobsQueryRequest, hl, if_false, Paging.collect,
      queryJobs_eq_page (Int.le_trans Int.one_nonneg h₁), Option.map_some, List.getLast?_map]
    split
    case h_1 hp =>
      rw [Option.map_eq_none_iff] at hp
      rw [hp]
      rfl
    case h_2 job hp =>
      obtain ⟨j, hj, rfl⟩ := Option.map_eq_some_iff.mp hp
      rw [hj]
      simp only [hi, JobJoin.record, Option.map_map, Function.comp_def, List.map_append]

theorem isJobsAfter_iff {l : List JobJoin}
    (hm : ∀ j ∈ l, j ∈ Paging.after JobJoin.rowid (db.selectedJobs ps qs cs) cursor) :
    IsJobsAfter db ps qs cs cursor (l.map JobJoin.record) ↔
      l = Paging.after JobJoin.rowid (db.selectedJobs ps qs cs) cursor := by
  have hs : (db.selectedJobs ps qs cs).Pairwise (·.rowid < ·.rowid) := db.joined_ascending.filter _
  constructor
  case mp =>
    intro h
    have ha : l.Pairwise (·.rowid < ·.rowid) :=
      (List.pairwise_map (f := JobJoin.record)).mp h.ascending
    refine Paging.eq_of_ascending ha (hs.filter _) fun j => ?_
    refine ⟨hm j, fun hj => ?_⟩
    obtain ⟨hj, hc⟩ := Paging.mem_after.mp hj
    obtain ⟨j', hj', he⟩ := List.mem_map.mp ((h.mem_iff j.record).mpr ⟨j, hj, rfl, hc⟩)
    have hd := (List.mem_filter.mp (Paging.mem_after.mp (hm j' hj')).1).1
    have hi : j'.rowid = j.rowid := congrArg (·.jobRowid) he
    exact Database.joined_inj hd (List.mem_filter.mp hj).1 hi ▸ hj'
  case mpr =>
    rintro rfl
    refine ⟨List.pairwise_map.mpr (hs.filter _), fun job => ?_⟩
    simp only [List.mem_map, Paging.mem_after, and_assoc, and_comm (a := _ < _)]

-- The pages always come to an end. They are the jobs after the cursor, in ascending order, exactly if
-- SQLite returns the first jobs that are left first for each page.
theorem pageAllJobs_iff (h₁ : 1 ≤ limit) (h₂ : limit ≤ 100) :
    (∃ jobs, pageAllJobs db ps qs cs limit plans cursor = some jobs) ∧
    ((∃ jobs, pageAllJobs db ps qs cs limit plans cursor = some jobs ∧
        IsJobsAfter db ps qs cs cursor jobs) ↔
      Paging.InOrder plans limit.toNat 0
        (Paging.after JobJoin.rowid (db.selectedJobs ps qs cs) cursor)) := by
  have hs : (db.selectedJobs ps qs cs).Pairwise (·.rowid < ·.rowid) := db.joined_ascending.filter _
  have hf : (Paging.after JobJoin.rowid (db.selectedJobs ps qs cs) cursor).length <
      db.joined.length + 1 :=
    Nat.lt_succ_of_le <| (List.length_filter_le _ _).trans (List.length_filter_le _ _)
  obtain ⟨l, hl⟩ : ∃ l, Paging.collect JobJoin.rowid (db.selectedJobs ps qs cs) plans limit.toNat
      (db.joined.length + 1) 0 cursor = some l :=
    Paging.exists_collect plans 0 hf
  rw [pageAllJobs, pageJobs_eq_collect h₁ h₂, hl, Option.map_some]
  refine ⟨⟨_, rfl⟩, ?_⟩
  rw [← Paging.collect_eq_iff hs (by omega) hf, hl, Option.some_inj,
    ← isJobsAfter_iff fun j => Paging.mem_after_of_collect hl]
  simp

-- A job of the Consumer 2, and then a job of the Consumer 1.
private def ofConsumers : Database :=
  let create (consumer : PeerId) : JobOp := .create 0 1 consumer .polygon none "job" 0
  [⟨[2]⟩, ⟨[1]⟩].foldl (fun db consumer => ((create consumer).exec .sample db).1)
    (.ofOffer ⟨[0]⟩ "offer" "protocol" "payload")

theorem pageAllJobs_iff_sample :
    ∃ jobs, pageAllJobs ofConsumers none none (some [⟨[1]⟩, ⟨[2]⟩]) 1 (fun _ => .scan) 0 = some jobs ∧
      jobs ≠ [] ∧ IsJobsAfter ofConsumers none none (some [⟨[1]⟩, ⟨[2]⟩]) 0 jobs := by
  obtain ⟨jobs, hj, ha⟩ : ∃ jobs,
      pageAllJobs ofConsumers none none (some [⟨[1]⟩, ⟨[2]⟩]) 1 (fun _ => .scan) 0 = some jobs ∧
        IsJobsAfter ofConsumers none none (some [⟨[1]⟩, ⟨[2]⟩]) 0 jobs :=
    (pageAllJobs_iff (by decide) (by decide)).2.mpr fun _ => rfl
  refine ⟨jobs, hj, ?_, ha⟩
  rintro rfl
  exact absurd hj (by decide +kernel)

-- The index on the Consumers returns the second job first. The cursor moves past the first one, which
-- no page contains.
theorem not_isJobsAfter : ¬∀ (db : Database) (ps : Option (List String))
    (qs cs : Option (List PeerId)) (limit : Int) (plans : Nat → Plan JobJoin) (cursor : Rowid),
    1 ≤ limit → limit ≤ 100 → ∃ jobs, pageAllJobs db ps qs cs limit plans cursor = some jobs ∧
      IsJobsAfter db ps qs cs cursor jobs := by
  intro h
  let plan : Plan JobJoin := ⟨List.reverse, List.reverse_perm⟩
  obtain ⟨jobs, hj, ha⟩ := h ofConsumers none none (some [⟨[1]⟩, ⟨[2]⟩]) 1 (fun _ => plan) 0
    (by decide) (by decide)
  have hn : ∃ j ∈ ofConsumers.selectedJobs none none (some [⟨[1]⟩, ⟨[2]⟩]), 0 < j.rowid ∧
      (pageAllJobs ofConsumers none none (some [⟨[1]⟩, ⟨[2]⟩]) 1 (fun _ => plan) 0).all
        (j.record ∉ ·) = true := by
    decide +kernel
  obtain ⟨j, hm, hc, hn⟩ := hn
  rw [hj, Option.all_some, decide_eq_true_eq] at hn
  exact hn ((ha.mem_iff _).mpr ⟨j, hm, rfl, hc⟩)

end Derouter
