import FileTrace.Proofs.Record.Layout

namespace FileTrace.Record

structure HoldsOpen (layout : OpenLayout) (e : OpenEvent) (record : List UInt8) : Prop where
  length : record.length = layout.shape.size
  pid : HasAt (layout.shape.offset "pid") (writeWord 4 e.pid.val.toNat) record
  tid : HasAt (layout.shape.offset "tid") (writeWord 4 e.tid.val.toNat) record
  ppid : HasAt (layout.shape.offset "ppid") (writeWord 4 e.ppid.val.toNat) record
  uid : HasAt (layout.shape.offset "uid") (writeWord 4 e.uid.val.toNat) record
  flags : HasAt (layout.argumentOffset "flags") (writeWord 8 e.flags.toNat) record
  mode : HasAt (layout.argumentOffset "mode") (writeWord 8 e.mode.toNat) record
  timestamp : HasAt (layout.shape.offset "ts") (writeWord 8 e.timestamp.val.toNat) record
  comm : HasTextAt (layout.shape.offset "comm") 16 e.comm record
  filename : HasTextAt (layout.shape.offset "filename") 64 e.filename record

structure HoldsSync (e : SyncEvent) (record : List UInt8) : Prop where
  length : record.length = syncShape.size
  comm : HasTextAt (syncShape.offset "comm") 16 e.comm record
  pid : HasAt (syncShape.offset "pid") (writeWord 4 e.pid.val.toNat) record
  uid : HasAt (syncShape.offset "uid") (writeWord 4 e.uid.val.toNat) record
  gid : HasAt (syncShape.offset "gid") (writeWord 4 e.gid.toNat) record
  loginUid : HasAt (syncShape.offset "loginuid") (writeWord 4 e.loginUid.val.toNat) record

def openPieces (e : OpenEvent) (comm filename : List UInt8) : List (List UInt8) :=
  [writeWord 4 e.pid.val.toNat, writeWord 4 e.tid.val.toNat, writeWord 4 e.ppid.val.toNat,
    writeWord 4 e.uid.val.toNat, writeWord 8 e.flags.toNat, writeWord 8 e.mode.toNat,
    writeWord 8 e.timestamp.val.toNat, comm, filename]

def syncPieces (e : SyncEvent) (comm : List UInt8) : List (List UInt8) :=
  [comm, writeWord 4 e.pid.val.toNat, writeWord 4 e.uid.val.toNat, writeWord 4 e.gid.toNat,
    writeWord 4 e.loginUid.val.toNat]

theorem holdsOpen_flatten (layout : OpenLayout) {e : OpenEvent} {comm filename : List UInt8}
    (hc : Buffers 16 e.comm comm) (hf : Buffers 64 e.filename filename) :
    HoldsOpen layout e (openPieces e comm filename).flatten := by
  have front : ((openPieces e comm filename).take 8).flatten.length = 56 := by
    simp [openPieces, length_writeWord, hc.length]
  have whole : (openPieces e comm filename).flatten.length = 120 := by
    simp [openPieces, length_writeWord, hc.length, hf.length]
  cases layout <;> exact {
    length := whole
    pid := hasAt_flatten 0 rfl rfl
    tid := hasAt_flatten 1 rfl rfl
    ppid := hasAt_flatten 2 rfl rfl
    uid := hasAt_flatten 3 rfl rfl
    flags := hasAt_flatten 4 rfl rfl
    mode := hasAt_flatten 5 rfl rfl
    timestamp := hasAt_flatten 6 rfl rfl
    comm := ⟨comm, hc, hasAt_flatten 7 rfl rfl⟩
    filename := ⟨filename, hf, hasAt_flatten 8 rfl front⟩ }

theorem holdsSync_flatten {e : SyncEvent} {comm : List UInt8} (hc : Buffers 16 e.comm comm) :
    HoldsSync e (syncPieces e comm).flatten := by
  have place (i : Nat) : ((syncPieces e comm).take (i + 1)).flatten.length = 16 + 4 * min i 4 := by
    match i with
    | 0 | 1 | 2 | 3 => simp [syncPieces, length_writeWord, hc.length]
    | i + 4 => simp [syncPieces, length_writeWord, hc.length]
  exact {
    length := place 4
    comm := ⟨comm, hc, hasAt_flatten 0 rfl rfl⟩
    pid := hasAt_flatten 1 rfl (place 0)
    uid := hasAt_flatten 2 rfl (place 1)
    gid := hasAt_flatten 3 rfl (place 2)
    loginUid := hasAt_flatten 4 rfl (place 3) }

theorem HoldsOpen.readOpen {layout : OpenLayout} {e : OpenEvent} {record : List UInt8}
    (h : HoldsOpen layout e record) (padding : List UInt8) :
    readOpen layout (record ++ padding) = e := by
  obtain ⟨caller, arguments, circumstances⟩ := layout.offsets_eq
  simp only [List.map_cons, List.map_nil, List.cons.injEq, and_true]
    at caller arguments circumstances
  obtain ⟨pid, tid, ppid, uid⟩ := caller
  obtain ⟨flags, mode⟩ := arguments
  obtain ⟨timestamp, comm, filename⟩ := circumstances
  rw [Record.readOpen, ← pid, ← tid, ← ppid, ← uid, ← flags, ← mode, ← timestamp, ← comm,
    ← filename, h.pid.word32, h.tid.word32, h.ppid.word32, h.uid.word32, h.flags.word64,
    h.mode.word64, h.timestamp.word64, commCapacity, filenameCapacity, h.comm.text,
    h.filename.text]

theorem HoldsSync.readSync {e : SyncEvent} {record : List UInt8} (h : HoldsSync e record)
    (padding : List UInt8) : readSync (record ++ padding) = e := by
  have offsets := syncOffsets_eq
  simp only [List.map_cons, List.map_nil, List.cons.injEq, and_true] at offsets
  obtain ⟨comm, pid, uid, gid, loginUid⟩ := offsets
  rw [Record.readSync, ← pid, ← uid, ← gid, ← loginUid, ← comm, commCapacity, h.comm.text,
    h.pid.word32, h.uid.word32, h.gid.word32, h.loginUid.word32]

theorem decode_written (layout : OpenLayout) (padding : List UInt8) :
    (∀ (e : OpenEvent) (record : List UInt8), HoldsOpen layout e record →
      record.length = 120 ∧
        Decoder.decode ⟨.opening, layout⟩ (record ++ padding) =
          .ok (if e.flags &&& 0x10000 = 0 then some (.opened e) else none)) ∧
      ∀ (e : SyncEvent) (record : List UInt8), HoldsSync e record →
        record.length = 32 ∧
          Decoder.decode ⟨.syncing, layout⟩ (record ++ padding) = .ok (some (.synced e)) := by
  constructor
  · intro e record h
    have size : record.length = 120 := by rw [h.length]; cases layout <;> rfl
    have long : ¬(record ++ padding).length < layout.recordSize := by
      rw [List.length_append, h.length, ← layout.recordSize_eq]
      omega
    refine ⟨size, ?_⟩
    rw [Decoder.decode, Decoder.recordSize, if_neg long, Decoder.event?, h.readOpen]
    rfl
  · intro e record h
    have size : record.length = 32 := h.length
    have long : ¬(record ++ padding).length < syncSize := by
      rw [List.length_append, size]
      exact Nat.not_lt.mpr (Nat.le_add_right 32 _)
    refine ⟨size, ?_⟩
    rw [Decoder.decode, Decoder.recordSize, if_neg long, Decoder.event?, h.readSync]

theorem decode_written_full_name :
    let comm : List UInt8 := [0x63, 0x61, 0x74, 0] ++ List.replicate 12 0xFF
    let name : List UInt8 := (List.replicate 32 [0xC3, 0xA9]).flatten
    let opened : OpenEvent := ⟨⟨1234⟩, ⟨1235⟩, ⟨1⟩, ⟨0xFFFFFFFF⟩, 0x8241, 0x1A4, ⟨99⟩,
      String.ofList ['c', 'a', 't'], String.ofList (List.replicate 32 'é')⟩
    let synced : SyncEvent := ⟨String.ofList ['c', 'a', 't'], ⟨77⟩, ⟨1000⟩, 100, .unset⟩
    let openRecord := (openPieces opened comm name).flatten
    let syncRecord := (syncPieces synced comm).flatten
    let padding : List UInt8 := [0xAA, 0, 0xAA, 0]
    HoldsOpen .current opened openRecord ∧ HoldsSync synced syncRecord ∧
      Decoder.decode ⟨.opening, .current⟩ (openRecord ++ padding) = .ok (some (.opened opened)) ∧
      Decoder.decode ⟨.syncing, .current⟩ (syncRecord ++ padding) = .ok (some (.synced synced)) := by
  intro comm name opened synced openRecord syncRecord padding
  have short : Buffers 16 (String.ofList ['c', 'a', 't']) comm :=
    ⟨rfl, by rw [String.toList_ofList]; decide,
      .inr ⟨List.replicate 12 0xFF, by rw [String.toList_ofList]; decide⟩⟩
  have full : Buffers 64 (String.ofList (List.replicate 32 'é')) name :=
    ⟨rfl, by rw [String.toList_ofList]; decide, .inl (by rw [String.toList_ofList]; decide)⟩
  have holdsOpen : HoldsOpen .current opened openRecord := holdsOpen_flatten .current short full
  have holdsSync : HoldsSync synced syncRecord := holdsSync_flatten short
  have decoded := ((decode_written .current padding).1 _ _ holdsOpen).2
  have noDirectory : opened.flags &&& 0x10000 = 0 := by decide
  rw [if_pos noDirectory] at decoded
  exact ⟨holdsOpen, holdsSync, decoded, ((decode_written .current padding).2 _ _ holdsSync).2⟩

end FileTrace.Record
