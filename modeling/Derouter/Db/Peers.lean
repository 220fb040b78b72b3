import Derouter.Db.Schema

open Sql

namespace Derouter
namespace Database

variable (db : Database)

-- Replaces the peers, where every referenced peer stays.
def withPeers (t : UniqueTable PeerRow PeerRow.keys)
    (h : ∀ {j p}, db.peers.get? j = some p → ∃ p', t.get? j = some p' ∧ p'.peerId = p.peerId) :
    Database :=
  { db with
    peers        := t
    snapshotPeer := fun hs => by
      have ⟨j, _, hp, he⟩ := db.snapshotPeer hs
      have ⟨p, ht, he'⟩ := h hp
      exact ⟨j, p, ht, he'.trans he⟩
  }

-- Whether the peer that a snapshot references exists.
def HasPeer (peerId : PeerId) : Prop :=
  ∃ r ∈ db.peers.rows, r.2.peerId = peerId

instance : Decidable (db.HasPeer peerId) :=
  inferInstanceAs <| Decidable (∃ r ∈ db.peers.rows, _)

variable {db} {db' : Database}

theorem hasPeer_iff : db.HasPeer peerId ↔ ∃ j p, db.peers.get? j = some p ∧ p.peerId = peerId := by
  simp [HasPeer, Table.mem_rows_iff]

theorem hasPeer_congr (h : db'.peers = db.peers) (hp : db.HasPeer peerId) : db'.HasPeer peerId := by
  rwa [HasPeer, h]

private theorem insert_peers {t : UniqueTable PeerRow PeerRow.keys}
    (h : db.peers.insert? p = some (i, t)) {j : Rowid} {q : PeerRow}
    (hq : db.peers.get? j = some q) : ∃ p', t.get? j = some p' ∧ p'.peerId = q.peerId :=
  have ⟨_, _, ht⟩ := UniqueTable.insert?_eq_some h
  ⟨q, ht ▸ Table.get?_insert_of_some hq, rfl⟩

private theorem update_peers {t : UniqueTable PeerRow PeerRow.keys} {f : PeerRow → PeerRow}
    (hf : ∀ p, (f p).peerId = p.peerId) (h : t.toTable = db.peers.toTable.update i f) {j : Rowid}
    {q : PeerRow} (hq : db.peers.get? j = some q) :
    ∃ p', t.get? j = some p' ∧ p'.peerId = q.peerId := by
  by_cases hj : j = i
  case pos =>
    have : t.get? j = some (f q) := by rw [h, hj, Table.get?_update_self, ← hj, hq, Option.map_some]
    exact ⟨f q, this, hf q⟩
  case neg => exact ⟨q, by rw [h, Table.get?_update_ne hj, hq], rfl⟩

variable (db)

-- `INSERT INTO peers (peer_id) VALUES (?) ON CONFLICT DO NOTHING`.
def ensurePeer (peerId : PeerId) : Database :=
  match h : db.peers.insert? { peerId } with
  | none        => db
  | some (_, t) => db.withPeers t (insert_peers h)

-- `INSERT INTO peers ..`, which fails when the peer exists.
def insertPeer? (p : PeerRow) : Option Database :=
  match h : db.peers.insert? p with
  | none        => none
  | some (_, t) => some <| db.withPeers t (insert_peers h)

private def findPeer (peerId : PeerId) : Option (Rowid × PeerRow) :=
  db.peers.rows.find? fun r => decide (r.2.peerId = peerId)

-- `SELECT .. FROM peers WHERE peer_id = ?`.
def peer? (peerId : PeerId) : Option PeerRow :=
  (db.findPeer peerId).map (·.2)

-- `UPDATE peers SET .. WHERE peer_id = ?`.
def updatePeer (peerId : PeerId) (f : PeerRow → PeerRow) (hf : ∀ p, (f p).peerId = p.peerId) :
    Database :=
  match db.findPeer peerId with
  | none        => db
  | some (i, _) =>
    db.withPeers (db.peers.rewrite i f fun p => by simp [PeerRow.keys, hf])
      (update_peers hf rfl)

variable {db}

theorem peer?_eq_some_iff :
    db.peer? peerId = some p ↔ p.peerId = peerId ∧ ∃ i, db.peers.get? i = some p := by
  simp only [peer?, findPeer, Option.map_eq_some_iff, Prod.exists, exists_eq_right]
  constructor
  case mp =>
    intro ⟨i, h⟩
    exact ⟨by simpa using List.find?_some h, i, Table.mem_rows_iff.mp <| List.mem_of_find?_eq_some h⟩
  case mpr =>
    intro ⟨he, i, h⟩
    have hm := Table.mem_rows_iff.mpr h
    cases hf : db.peers.rows.find? fun r => decide (r.2.peerId = peerId)
    case none =>
      have hn := List.find?_eq_none.mp hf (i, p) hm
      simp [he] at hn
    case some r =>
      have hr : r.2.peerId = peerId := by simpa using List.find?_some hf
      have hg := Table.mem_rows_iff.mp <| List.mem_of_find?_eq_some hf
      -- The index on the peer ID leaves one row.
      have hi : r.1 = i := db.peers.unique (k := peerId) hg h (by simp [PeerRow.keys, hr])
        (by simp [PeerRow.keys, he])
      have hp : r.2 = p := by
        rw [hi, h] at hg
        exact Option.some.inj hg |>.symm
      exact ⟨i, by rw [← hi, ← hp]⟩

theorem peer?_eq_none_iff :
    db.peer? peerId = none ↔ ∀ i p, db.peers.get? i = some p → p.peerId ≠ peerId := by
  constructor
  case mp =>
    intro h i p hp he
    rw [peer?_eq_some_iff.mpr ⟨he, i, hp⟩] at h
    contradiction
  case mpr =>
    intro h
    cases hp : db.peer? peerId
    case none => rfl
    case some p =>
      have ⟨he, i, hi⟩ := peer?_eq_some_iff.mp hp
      exact absurd he (h i p hi)

theorem peer?_congr (h : db.peers = db'.peers) : db.peer? peerId = db'.peer? peerId := by
  simp only [peer?, findPeer, h]

theorem peer?_updatePeer {f : PeerRow → PeerRow} {hf : ∀ p, (f p).peerId = p.peerId} :
    (db.updatePeer peerId f hf).peer? peerId = (db.peer? peerId).map f := by
  cases h : db.peer? peerId
  case none =>
    have hn : db.findPeer peerId = none := by simpa [peer?] using h
    simp [updatePeer, hn, h]
  case some p =>
    have ⟨⟨i, q⟩, hs, hq⟩ := Option.map_eq_some_iff.mp h
    have hi : db.peers.get? i = some q := Table.mem_rows_iff.mp <| List.mem_of_find?_eq_some hs
    have he : q.peerId = peerId := by simpa using List.find?_some hs
    rw [Option.map_some, peer?_eq_some_iff, ← hq]
    refine ⟨(hf q).trans he, i, ?_⟩
    simp only [updatePeer, hs, withPeers]
    exact Table.get?_update_self.trans (by rw [hi, Option.map_some])

theorem peer?_ensurePeer (h : db.peer? peerId = some p) :
    (db.ensurePeer peerId').peer? peerId = some p := by
  simp only [ensurePeer]
  split
  case h_1 => exact h
  case h_2 i t ht =>
    have ⟨he, j, hj⟩ := peer?_eq_some_iff.mp h
    have ⟨_, _, hi⟩ := UniqueTable.insert?_eq_some ht
    exact peer?_eq_some_iff.mpr ⟨he, j, hi ▸ Table.get?_insert_of_some hj⟩

theorem updatePeer_offerSnapshots {f : PeerRow → PeerRow} {hf : ∀ p, (f p).peerId = p.peerId} :
    (db.updatePeer peerId f hf).offerSnapshots = db.offerSnapshots := by
  simp only [updatePeer]
  split <;> rfl

theorem updatePeer_serviceJobs {f : PeerRow → PeerRow} {hf : ∀ p, (f p).peerId = p.peerId} :
    (db.updatePeer peerId f hf).serviceJobs = db.serviceJobs := by
  simp only [updatePeer]
  split <;> rfl

theorem updatePeer_peers {f : PeerRow → PeerRow} {hf : ∀ p, (f p).peerId = p.peerId} (i : Rowid) :
    (db.updatePeer peerId f hf).peers.get? i =
      (db.peers.get? i).map fun p => if p.peerId = peerId then f p else p := by
  simp only [updatePeer]
  split
  case h_1 hn =>
    cases hp : db.peers.get? i
    case none => rfl
    case some p =>
      have he : p.peerId ≠ peerId := by
        have h := List.find?_eq_none.mp hn (i, p) (Table.mem_rows_iff.mpr hp)
        simpa using h
      simp [he]
  case h_2 j q hs =>
    have hj : db.peers.get? j = some q := Table.mem_rows_iff.mp <| List.mem_of_find?_eq_some hs
    have he : q.peerId = peerId := by simpa using List.find?_some hs
    have hu : (db.peers.toTable.update j f).get? i = _ := Table.get?_update
    refine hu.trans ?_
    by_cases hi : i = j
    case pos => simp [hi, hj, he]
    case neg =>
      rw [if_neg hi]
      cases hp : db.peers.get? i
      case none => rfl
      case some p =>
        have hn : p.peerId ≠ peerId := by
          intro hn
          exact hi <| db.peers.unique (k := peerId) hp hj (by simp [PeerRow.keys, hn])
            (by simp [PeerRow.keys, he])
        simp [hn]

theorem hasPeer_of_peer? (h : db.peer? peerId = some p) : db.HasPeer peerId :=
  have ⟨he, i, hi⟩ := peer?_eq_some_iff.mp h
  hasPeer_iff.mpr ⟨i, p, hi, he⟩

private theorem insert?_of_not_hasPeer (h : ¬db.HasPeer p.peerId) :
    ∃ t, db.peers.insert? p = some (db.peers.nextRowid, t) := by
  refine UniqueTable.insert?_of_free <| UniqueTable.free_iff.mpr fun i q hq _ k hk hk' => ?_
  simp only [PeerRow.keys, List.mem_singleton] at hk hk'
  exact h <| hasPeer_iff.mpr ⟨i, q, hq, hk'.symm.trans hk⟩

theorem hasPeer_ensurePeer : (db.ensurePeer peerId).HasPeer peerId := by
  simp only [ensurePeer]
  split
  case h_1 hn =>
    refine not_not.mp fun h => ?_
    have ⟨t, ht⟩ := insert?_of_not_hasPeer (p := { peerId }) h
    simp [hn] at ht
  case h_2 i t ht =>
    have ⟨_, _, hi⟩ := UniqueTable.insert?_eq_some ht
    refine hasPeer_iff.mpr ⟨db.peers.nextRowid, { peerId }, ?_, rfl⟩
    exact hi ▸ by rw [Table.get?_insert, if_pos rfl]

theorem ensurePeer_peers (h : ¬db.HasPeer peerId) :
    (db.ensurePeer peerId).peers.toTable = db.peers.toTable.insert { peerId } := by
  have hp : (db.ensurePeer peerId).HasPeer peerId := hasPeer_ensurePeer
  revert hp
  simp only [ensurePeer]
  split
  case h_1    => exact fun hp => absurd hp h
  case h_2 ht => exact fun _ => (UniqueTable.insert?_eq_some ht).2.2

theorem ensurePeer_of_hasPeer (h : db.HasPeer peerId) : db.ensurePeer peerId = db := by
  simp only [ensurePeer]
  split
  case h_1 => rfl
  case h_2 ht =>
    obtain ⟨i, p, hp, he⟩ := hasPeer_iff.mp h
    obtain ⟨hf, _, _⟩ := UniqueTable.insert?_eq_some ht
    refine absurd (List.mem_singleton.mpr he.symm) ?_
    exact UniqueTable.free_iff.mp hf i p hp (Table.ne_nextRowid hp) peerId <|
      List.mem_singleton_self _

theorem insertPeer?_total (h : db.peer? p.peerId = none) : ∃ db', db.insertPeer? p = some db' := by
  have hn : ¬db.HasPeer p.peerId := by
    intro hp
    obtain ⟨i, q, hq, he⟩ := hasPeer_iff.mp hp
    exact peer?_eq_none_iff.mp h i q hq he
  have ⟨t, ht⟩ := insert?_of_not_hasPeer hn
  simp only [insertPeer?]
  split
  case h_1 hi => simp [hi] at ht
  case h_2    => exact ⟨_, rfl⟩

theorem insertPeer?_peers (h : db.insertPeer? p = some db') :
    db'.peers.toTable = db.peers.toTable.insert p := by
  simp only [insertPeer?] at h
  split at h <;> try contradiction
  case _ i t ht =>
    have ⟨_, _, he⟩ := UniqueTable.insert?_eq_some ht
    exact Option.some.inj h ▸ he

theorem insertPeer?_serviceJobs (h : db.insertPeer? p = some db') :
    db'.serviceJobs = db.serviceJobs := by
  simp only [insertPeer?] at h
  split at h <;> try contradiction
  exact Option.some.inj h ▸ rfl

theorem peer?_insertPeer? (h : db.insertPeer? p = some db') : db'.peer? p.peerId = some p := by
  simp only [insertPeer?] at h
  split at h <;> try contradiction
  case _ i t ht =>
    have ⟨_, _, he⟩ := UniqueTable.insert?_eq_some ht
    refine peer?_eq_some_iff.mpr ⟨rfl, db.peers.nextRowid, ?_⟩
    rw [← Option.some.inj h, withPeers, he, Table.get?_insert, if_pos rfl]

theorem insertPeer?_offerSnapshots (h : db.insertPeer? p = some db') :
    db'.offerSnapshots = db.offerSnapshots := by
  simp only [insertPeer?] at h
  split at h <;> try contradiction
  exact Option.some.inj h ▸ rfl

end Database
end Derouter
