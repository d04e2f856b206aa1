import KuvaAI.Lib.Dict
import KuvaAI.Lib.Runs
import KuvaAI.Python.Value
import Mathlib.Data.List.Perm.Basic

/-! The local storage of audit records: a log that every record is appended to, a buffer,
and the files that the buffer is written to in a batch. The modules it does not import are
taken to be there. -/
namespace KuvaAI.Audit.Local
open Python

/-- How the batch write to a partition file ends. When a write or the close fails, the
first `landed` records of the buffer have got into the file by then. -/
inductive BatchWrite where
  | openFails (e : Exn)
  | fails (landed : Nat) (e : Exn)
  | succeeds
  deriving DecidableEq, Repr

variable {R : Type}

structure Call (R : Type) where
  record : R
  wal : Except Exn Unit
  /-- The minute of the clock, which names the file. -/
  timestamp : String
  batch : BatchWrite

structure LocalAuditStorage (R : Type) where
  bufferSize : Nat
  buffer : List R
  files : Dict String (List R)
  wal : List R

def LocalAuditStorage.init (bufferSize : Nat) : LocalAuditStorage R := ⟨bufferSize, [], .empty, []⟩

namespace LocalAuditStorage

variable (s : LocalAuditStorage R)

def takes (record : R) : LocalAuditStorage R :=
  { s with wal := s.wal ++ [record], buffer := s.buffer ++ [record] }

def writes (filename : String) (records : List R) : LocalAuditStorage R :=
  { s with files := s.files.set filename ((s.files.get? filename).getD [] ++ records) }

def clear : LocalAuditStorage R := { s with buffer := [] }

def kept : List R := s.files.collect id ++ s.buffer

end LocalAuditStorage

/-- `wal_path` is a variable of `persist` only. -/
def noWalPath : Exn := ⟨.nameError, "name 'wal_path' is not defined"⟩

def flushBuffer (call : Call R) (s : LocalAuditStorage R) : Except Exn Unit × LocalAuditStorage R :=
  let filename := "audit-" ++ call.timestamp ++ ".ndjson"
  match call.batch with
  | .openFails e => (.error e, s)
  | .fails landed e => (.error e, s.writes filename (s.buffer.take landed))
  | .succeeds => (.error noWalPath, (s.writes filename s.buffer).clear)

/-- Every record has a chain hash, which is what `persist` returns. -/
def persist (chainHash : R → String) (call : Call R) (s : LocalAuditStorage R) :
    Except Exn String × LocalAuditStorage R :=
  match call.wal with
  | .error e => (.error e, s)
  | .ok () =>
    let s := s.takes call.record
    if s.bufferSize ≤ s.buffer.length then
      match flushBuffer call s with
      | (.error e, s) => (.error e, s)
      | (.ok (), s) => (.ok (chainHash call.record), s)
    else (.ok (chainHash call.record), s)

def step (chainHash : R → String) (s : LocalAuditStorage R) (call : Call R) : LocalAuditStorage R :=
  (persist chainHash call s).2

def Succeeds (s : LocalAuditStorage R) (call : Call R) : Prop :=
  call.wal = .ok () ∧ (s.bufferSize ≤ s.buffer.length + 1 → call.batch = .succeeds)

def ExactlyOnce [DecidableEq R] (s : LocalAuditStorage R) : Prop := ∀ r ∈ s.wal, s.kept.count r = 1

/-- What a call of `persist` is to do. -/
structure Meets [DecidableEq R] (chainHash : R → String) (s : LocalAuditStorage R) (call : Call R) :
    Prop where
  returns : Succeeds s call → ∃ hash, (persist chainHash call s).1 = .ok hash
  once : ExactlyOnce (step chainHash s call)

/-- The call does not get as far as to write a record to a partition file. -/
def Spared (s : LocalAuditStorage R) (call : Call R) : Prop :=
  call.wal ≠ .ok () ∨ s.buffer.length + 1 < s.bufferSize ∨
    (∃ e, call.batch = .openFails e) ∨ ∃ e, call.batch = .fails 0 e

section Steps

theorem files_writes (s : LocalAuditStorage R) (filename : String) (records : List R) :
    ((s.writes filename records).files.collect id).Perm (s.files.collect id ++ records) := by
  unfold LocalAuditStorage.writes
  cases found : s.files.get? filename with
  | none => simp [Dict.collect_set_new id found]
  | some old =>
    obtain ⟨rest, before, after⟩ := Dict.collect_set id found
    have moved : (old ++ records ++ rest).Perm (old ++ rest ++ records) := by
      simpa using List.perm_append_comm.append_left old
    exact (after _).trans (moved.trans (before.symm.append_right records))

theorem kept_writes (s : LocalAuditStorage R) (filename : String) (records : List R) :
    (s.writes filename records).kept.Perm (s.kept ++ records) := by
  have moved : (s.files.collect id ++ records ++ s.buffer).Perm (s.kept ++ records) := by
    simpa [LocalAuditStorage.kept] using List.perm_append_comm.append_left (s.files.collect id)
  exact ((files_writes s filename records).append_right s.buffer).trans moved

theorem kept_takes (s : LocalAuditStorage R) (record : R) :
    (s.takes record).kept = s.kept ++ [record] := by
  simp [LocalAuditStorage.kept, LocalAuditStorage.takes]

variable (chainHash : R → String) {s : LocalAuditStorage R} {call : Call R}

theorem step_unlogged {e : Exn} (wal : call.wal = .error e) : step chainHash s call = s := by
  simp [step, persist, wal]

theorem persist_buffered (wal : call.wal = .ok ()) (room : s.buffer.length + 1 < s.bufferSize) :
    persist chainHash call s = (.ok (chainHash call.record), s.takes call.record) := by
  simp [persist, wal, LocalAuditStorage.takes, room]

theorem persist_flushed (wal : call.wal = .ok ()) (full : s.bufferSize ≤ s.buffer.length + 1) :
    ∃ e, persist chainHash call s = (.error e, (flushBuffer call (s.takes call.record)).2) := by
  cases batch : call.batch <;> simp [persist, wal, flushBuffer, batch, LocalAuditStorage.takes, full]

def doubled (s : LocalAuditStorage R) : BatchWrite → List R
  | .openFails _ | .succeeds => []
  | .fails landed _ => s.buffer.take landed

theorem kept_flushBuffer (call : Call R) (s : LocalAuditStorage R) :
    (flushBuffer call s).2.kept.Perm (s.kept ++ doubled s call.batch) := by
  unfold flushBuffer doubled
  cases call.batch with
  | openFails e => simp
  | fails landed e => exact kept_writes s _ _
  | succeeds =>
    have written := files_writes s ("audit-" ++ call.timestamp ++ ".ndjson") s.buffer
    simpa [LocalAuditStorage.kept, LocalAuditStorage.clear] using written

structure Logged (s : LocalAuditStorage R) : Prop where
  distinct : s.wal.Nodup
  only : ∀ r ∈ s.kept, r ∈ s.wal

theorem wal_flushBuffer (call : Call R) (s : LocalAuditStorage R) :
    (flushBuffer call s).2.wal = s.wal := by
  unfold flushBuffer
  cases call.batch <;> rfl

theorem mem_doubled {s : LocalAuditStorage R} {batch : BatchWrite} {r : R}
    (member : r ∈ doubled s batch) : r ∈ s.kept := by
  cases batch with
  | openFails e => cases member
  | succeeds => cases member
  | fails landed e => exact List.mem_append_right _ (List.mem_of_mem_take member)

theorem exactlyOnce_iff [DecidableEq R] (logged : Logged s) :
    ExactlyOnce s ↔ s.kept.Perm s.wal := by
  constructor
  · intro once
    rw [List.perm_iff_count]
    intro r
    by_cases member : r ∈ s.wal
    · rw [once r member, List.count_eq_one_of_mem logged.distinct member]
    · have absent : r ∉ s.kept := fun inKept => member (logged.only r inKept)
      rw [List.count_eq_zero_of_not_mem absent, List.count_eq_zero_of_not_mem member]
  · intro same r member
    rw [same.count_eq, List.count_eq_one_of_mem logged.distinct member]

theorem logged_takes (logged : Logged s) {record : R} (fresh : record ∉ s.wal) :
    Logged (s.takes record) where
  distinct := by
    have single : s.wal.Disjoint [record] := by simpa using fresh
    exact logged.distinct.append (List.nodup_singleton record) single
  only := by
    intro r member
    rw [kept_takes] at member
    rcases List.mem_append.mp member with earlier | now
    · exact List.mem_append_left _ (logged.only r earlier)
    · exact List.mem_append_right _ now

theorem logged_flushBuffer (logged : Logged s) : Logged (flushBuffer call s).2 where
  distinct := by simpa [wal_flushBuffer] using logged.distinct
  only := by
    intro r member
    rw [wal_flushBuffer]
    rcases List.mem_append.mp ((kept_flushBuffer call s).mem_iff.mp member) with earlier | twice
    · exact logged.only r earlier
    · exact logged.only r (mem_doubled twice)

theorem logged_step (logged : Logged s) (fresh : call.record ∉ s.wal) :
    Logged (step chainHash s call) := by
  cases wal : call.wal with
  | error e => rwa [step_unlogged chainHash wal]
  | ok _ =>
    have takes := logged_takes logged fresh
    by_cases room : s.buffer.length + 1 < s.bufferSize
    · simpa [step, persist_buffered chainHash wal room] using takes
    · obtain ⟨e, ran⟩ := persist_flushed chainHash wal (Nat.le_of_not_lt room)
      simpa [step, ran] using logged_flushBuffer takes

theorem flushBuffer_once_iff (same : s.kept.Perm s.wal) :
    (flushBuffer call s).2.kept.Perm (flushBuffer call s).2.wal ↔ doubled s call.batch = [] := by
  have after := (kept_flushBuffer call s).trans (same.append_right _)
  rw [wal_flushBuffer]
  constructor
  · intro once
    have lengths := (after.symm.trans once).length_eq
    rw [List.length_append] at lengths
    exact List.length_eq_zero_iff.mp (by omega)
  · intro nothing
    simpa [nothing] using after

end Steps

section Runs

variable [DecidableEq R] (chainHash : R → String) {s : LocalAuditStorage R} {call : Call R}

theorem meets_iff (logged : Logged s) (once : s.kept.Perm s.wal) (fresh : call.record ∉ s.wal) :
    Meets chainHash s call ↔ Spared s call := by
  have takes := logged_takes logged fresh
  have kept : (s.takes call.record).kept.Perm (s.takes call.record).wal := by
    rw [kept_takes]
    exact once.append_right _
  cases wal : call.wal with
  | error e =>
    refine iff_of_true ⟨?_, ?_⟩ (.inl (by simp [wal]))
    · rintro ⟨ok, _⟩
      simp [wal] at ok
    · rwa [step_unlogged chainHash wal, exactlyOnce_iff logged]
  | ok _ =>
    by_cases room : s.buffer.length + 1 < s.bufferSize
    · have ran := persist_buffered chainHash wal room
      refine iff_of_true ⟨fun _ => ⟨_, by rw [ran]⟩, ?_⟩ (.inr (.inl room))
      rwa [step, ran, exactlyOnce_iff takes]
    · have full := Nat.le_of_not_lt room
      obtain ⟨e, ran⟩ := persist_flushed chainHash wal full
      have once_iff : ExactlyOnce (step chainHash s call) ↔
          doubled (s.takes call.record) call.batch = [] := by
        rw [exactlyOnce_iff (logged_step chainHash logged fresh), step, ran]
        exact flushBuffer_once_iff kept
      have succeeds : Succeeds s call → call.batch = .succeeds := fun all => all.2 full
      cases batch : call.batch with
      | openFails e =>
        refine iff_of_true ⟨?_, ?_⟩ (.inr (.inr (.inl ⟨e, batch⟩)))
        · exact fun all => absurd (succeeds all) (by simp [batch])
        · simp [once_iff, batch, doubled]
      | fails landed e =>
        have none_twice : doubled (s.takes call.record) call.batch = [] ↔ landed = 0 := by
          simp [batch, doubled, LocalAuditStorage.takes]
        constructor
        · intro meets
          have zero := none_twice.mp (once_iff.mp meets.once)
          exact .inr (.inr (.inr ⟨e, by rw [batch, zero]⟩))
        · intro spared
          have zero : landed = 0 := by simpa [Spared, wal, room, batch] using spared
          refine ⟨fun all => absurd (succeeds all) (by simp [batch]), ?_⟩
          exact once_iff.mpr (none_twice.mpr zero)
      | succeeds =>
        refine iff_of_false ?_ (by simp [Spared, wal, room, batch])
        intro meets
        obtain ⟨hash, returned⟩ := meets.returns ⟨wal, fun _ => batch⟩
        simp [ran] at returned

omit [DecidableEq R] in
theorem wal_step (call : Call R) :
    (step chainHash s call).wal = s.wal ∨ (step chainHash s call).wal = s.wal ++ [call.record] := by
  cases wal : call.wal with
  | error e => exact .inl (by rw [step_unlogged chainHash wal])
  | ok _ =>
    by_cases room : s.buffer.length + 1 < s.bufferSize
    · exact .inr (by simp [step, persist_buffered chainHash wal room, LocalAuditStorage.takes])
    · obtain ⟨e, ran⟩ := persist_flushed chainHash wal (Nat.le_of_not_lt room)
      exact .inr (by simp [step, ran, wal_flushBuffer, LocalAuditStorage.takes])

theorem run_meets_iff (calls : List (Call R)) (logged : Logged s) (once : s.kept.Perm s.wal)
    (distinct : (s.wal ++ calls.map Call.record).Nodup) :
    Runs.Each (step chainHash) (Meets chainHash) s calls ↔
      Runs.Each (step chainHash) Spared s calls := by
  induction calls generalizing s with
  | nil => exact iff_of_true Runs.each_nil Runs.each_nil
  | cons call rest ih =>
    have fresh : call.record ∉ s.wal := by
      intro member
      exact (List.nodup_append.mp distinct).2.2 _ member _ (by simp) rfl
    have here := meets_iff chainHash logged once fresh
    have later (meets : Meets chainHash s call) := by
      refine ih (logged_step chainHash logged fresh)
        ((exactlyOnce_iff (logged_step chainHash logged fresh)).mp meets.once) ?_
      rcases wal_step chainHash (s := s) call with same | more
      · rw [same]
        exact distinct.sublist ((List.sublist_cons_self _ _).append_left _)
      · simpa [more] using distinct
    rw [Runs.each_cons, Runs.each_cons, ← here]
    exact and_congr_right later

/-- In every run the storage does what it should at exactly the calls that do not get as
far as to write to a partition file: a full buffer cannot be written without an error. -/
theorem persist_meets_iff (bufferSize : Nat) (calls : List (Call R))
    (distinct : (calls.map Call.record).Nodup) :
    Runs.Each (step chainHash) (Meets chainHash) (.init bufferSize) calls ↔
      Runs.Each (step chainHash) Spared (.init bufferSize) calls := by
  apply run_meets_iff
  · exact ⟨List.nodup_nil, fun r member => nomatch member⟩
  · exact .refl _
  · simpa [LocalAuditStorage.init] using distinct

end Runs

def writable (record : String) : Call String := ⟨record, .ok (), "20240101T0000", .succeeds⟩

def fullDisk (record : String) : Call String :=
  ⟨record, .ok (), "20240101T0000", .fails 1 ⟨.oSError, "[Errno 28] No space left on device"⟩⟩

theorem buffered_meets_iff :
    Runs.Each (step id) (Meets id) (.init 3) [writable "a", writable "b", fullDisk "c"] ↔
      Runs.Each (step id) Spared (.init 3) [writable "a", writable "b", fullDisk "c"] :=
  persist_meets_iff id 3 _ (by decide)

/-- A buffer of one record is full at once, and nothing fails. -/
theorem writable_raises : ¬ Runs.Each (step id) (Meets id) (.init 1) [writable "a"] := by
  intro meets
  obtain ⟨hash, returned⟩ := (meets [] (writable "a") (List.prefix_refl _)).returns
    ⟨rfl, fun _ => rfl⟩
  cases returned

end KuvaAI.Audit.Local
