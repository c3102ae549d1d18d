import Caden.TpmFormat

/-!
Sequences of calls of the readers of a TPM structure, on one cursor.

Each call reads the piece of the buffer from the position it starts at to the one it returns,
so that the pieces of a sequence lie side by side.
-/

namespace Caden.TpmCursor

open Tpm TpmFormat

/-! ### Calls -/

/-- A call of one of the readers. -/
inductive Call where
  | readU16Be
  | readU32Be
  | readBlob
  | skip (n : ℕ)

/-- What a call read; of skipped bytes only their number is known. -/
inductive Item where
  | u16 (v : UInt16)
  | u32 (v : UInt32)
  | blob (b : Bytes)
  | skipped (n : ℕ)
  deriving DecidableEq

variable (data : Bytes) (pos : ℕ)

/-- A call with the cursor at `pos`; the cursor is then at the position it returns. -/
def Call.run : Call → Res (Item × ℕ)
  | .readU16Be => do
    let (v, stop) ← tpmReadU16Be data pos
    return (.u16 v, stop)
  | .readU32Be => do
    let (v, stop) ← tpmReadU32Be data pos
    return (.u32 v, stop)
  | .readBlob => do
    let (b, stop) ← tpmReadBlob data pos
    return (.blob b, stop)
  | .skip n => do
    let stop ← tpmSkip data pos n
    return (.skipped n, stop)

/-- The number of bytes a call needs: a blob needs its length, and then as many bytes as that
says. -/
def Call.need : Call → ℕ
  | .readU16Be => 2
  | .readU32Be => 4
  | .readBlob => 2 + beNat ((data.drop pos).take 2)
  | .skip n => n

/-- The bytes an item that was read at `pos` stands for. -/
def Item.encode : Item → Bytes
  | .u16 v => beBytes 2 v.toNat
  | .u32 v => beBytes 4 v.toNat
  | .blob b => beBytes 2 b.length ++ b
  | .skipped n => (data.drop pos).take n

variable {data pos} {stop : ℕ} {c : Call} {x : Item}

lemma beBytes_toList {n : ℕ} (b : ArrayN UInt8 n) : beBytes n (beNat b.toList) = b.toList := by
  have h := beBytes_beNat b.toList
  rwa [b.toList_length] at h

/-- **What a call reads**: the bytes it needs, from where it starts to where it stops. -/
lemma Call.run_spec (h : c.run data pos = .ok (x, stop)) :
    stop = pos + c.need data pos ∧
      data.drop pos = x.encode data pos ++ data.drop stop ∧
      (x.encode data pos).length = c.need data pos := by
  cases c with
  | readU16Be =>
    simp only [run, Outcome.bind_eq_ok, Prod.exists, tpmReadU16Be_eq_ok, Outcome.pure_eq,
      Outcome.ok.injEq, Prod.mk.injEq] at h
    obtain ⟨_, _, ⟨-, b, rest, hdrop, rfl, rfl⟩, rfl, rfl⟩ := h
    have henc : beBytes 2 (u16FromBeBytes b).toNat = b.toList := by
      rw [toNat_u16FromBeBytes, beBytes_toList]
    refine ⟨rfl, ?_, beBytes_length _ _⟩
    rw [Item.encode, henc, drop_piece hdrop b.toList_length, hdrop]
  | readU32Be =>
    simp only [run, Outcome.bind_eq_ok, Prod.exists, tpmReadU32Be_eq_ok, Outcome.pure_eq,
      Outcome.ok.injEq, Prod.mk.injEq] at h
    obtain ⟨_, _, ⟨-, b, rest, hdrop, rfl, rfl⟩, rfl, rfl⟩ := h
    have henc : beBytes 4 (u32FromBeBytes b).toNat = b.toList := by
      rw [toNat_u32FromBeBytes, beBytes_toList]
    refine ⟨rfl, ?_, beBytes_length _ _⟩
    rw [Item.encode, henc, drop_piece hdrop b.toList_length, hdrop]
  | readBlob =>
    simp only [run, Outcome.bind_eq_ok, Prod.exists, Outcome.pure_eq, Outcome.ok.injEq,
      Prod.mk.injEq] at h
    obtain ⟨_, _, hread, rfl, rfl⟩ := h
    obtain ⟨z, rest, hdrop, rfl, rfl⟩ := tpmReadBlob_returns hread
    -- the length in front of the blob is what the call needed to know
    have hneed : Call.need data pos .readBlob = z.encode.length := by
      rw [need, hdrop, Sized.encode, List.append_assoc, List.take_left' z.size.toList_length,
        z.beNat_size, ← Sized.encode, Sized.length_encode]
    refine ⟨by rw [hneed], ?_, by rw [hneed]; rfl⟩
    rw [drop_piece hdrop rfl, hdrop]
    rfl
  | skip n =>
    simp only [run, Outcome.bind_eq_ok, tpmSkip_eq_ok, Outcome.pure_eq, Outcome.ok.injEq,
      Prod.mk.injEq] at h
    obtain ⟨_, ⟨-, hle, rfl⟩, rfl, rfl⟩ := h
    refine ⟨rfl, ?_, ?_⟩
    · rw [Item.encode, ← List.drop_drop, List.take_append_drop]
    · rw [Item.encode, List.length_take, List.length_drop, need]
      omega

@[simp] lemma Call.safe_run : (c.run data pos).Safe := by
  cases c <;> simp [run]

lemma exists_sized (h : pos + Call.need data pos .readBlob ≤ data.length) :
    ∃ (z : Sized) (rest : Bytes), data.drop pos = z.encode ++ rest := by
  rw [Call.need] at h
  obtain ⟨size, hdrop⟩ := exists_piece pos 2 (show pos + 2 ≤ data.length by omega)
  rw [hdrop, List.take_left' size.toList_length] at h
  have hbound := beNat_lt size.toList
  rw [size.toList_length] at hbound
  have hbody : ((data.drop (pos + 2)).take (beNat size.toList)).length = beNat size.toList := by
    rw [List.length_take, List.length_drop]
    omega
  refine ⟨⟨_, hbody.trans_lt hbound⟩, (data.drop (pos + 2)).drop (beNat size.toList), ?_⟩
  rw [Sized.encode, Sized.size_eq hbody, List.append_assoc, List.take_append_drop, hdrop]

lemma Call.run_isOk (hlen : data.length < 2 ^ 64) (h : pos + c.need data pos ≤ data.length) :
    ∃ r, c.run data pos = .ok r := by
  cases c with
  | readU16Be =>
    rw [need] at h
    obtain ⟨b, hdrop⟩ := exists_piece pos 2 h
    have hread := tpmReadU16Be_eq_ok.mpr ⟨by omega, b, _, hdrop, rfl, rfl⟩
    exact ⟨_, by rw [run, hread, Outcome.ok_bind]; rfl⟩
  | readU32Be =>
    rw [need] at h
    obtain ⟨b, hdrop⟩ := exists_piece pos 4 h
    have hread := tpmReadU32Be_eq_ok.mpr ⟨by omega, b, _, hdrop, rfl, rfl⟩
    exact ⟨_, by rw [run, hread, Outcome.ok_bind]; rfl⟩
  | readBlob =>
    obtain ⟨z, rest, hdrop⟩ := exists_sized h
    have hsize := congrArg List.length hdrop
    rw [List.length_drop, List.length_append] at hsize
    have hread : tpmReadBlob data pos = .ok (z.bytes, pos + z.encode.length) :=
      tpmReadBlob_of_drop (by omega) hdrop
    exact ⟨_, by rw [run, hread, Outcome.ok_bind]; rfl⟩
  | skip n =>
    rw [need] at h
    have hread := tpmSkip_eq_ok.mpr ⟨by omega, h, rfl⟩
    exact ⟨_, by rw [run, hread, Outcome.ok_bind]; rfl⟩

lemma Call.run_fails_iff (hlen : data.length < 2 ^ 64) (hpos : pos ≤ data.length) :
    (∃ e, c.run data pos = .err e) ↔ data.length - pos < c.need data pos := by
  refine ⟨?_, fun hlt => ?_⟩
  · rintro ⟨e, he⟩
    by_contra hge
    obtain ⟨r, hr⟩ : ∃ r, c.run data pos = .ok r := run_isOk hlen (by omega)
    rw [he] at hr
    cases hr
  · rcases hrun : c.run data pos with ⟨x, stop⟩ | e | _
    · -- a call that returned had its bytes
      obtain ⟨-, hdrop, hsize⟩ := run_spec hrun
      have hle := congrArg List.length hdrop
      rw [List.length_drop, List.length_append, hsize] at hle
      omega
    · exact ⟨e, rfl⟩
    · exact absurd hrun safe_run

/-! ### Sequences of calls -/

/-- The calls one after the other; what each read, with the position after it. -/
def readAll (data : Bytes) : ℕ → List Call → Res (List (Item × ℕ))
  | _, [] => return []
  | pos, c :: cs => do
    let (x, stop) ← c.run data pos
    let rest ← readAll data stop cs
    return (x, stop) :: rest

/-- The positions that the cursor takes, from `pos` on. -/
def positions (pos : ℕ) (trace : List (Item × ℕ)) : List ℕ := pos :: trace.map Prod.snd

/-- The position after the last call. -/
def final : ℕ → List (Item × ℕ) → ℕ
  | pos, [] => pos
  | _, (_, stop) :: trace => final stop trace

/-- What was read, in order, as bytes. -/
def encodeAll (data : Bytes) : ℕ → List (Item × ℕ) → Bytes
  | _, [] => []
  | pos, (x, stop) :: trace => x.encode data pos ++ encodeAll data stop trace

/-- The items lie side by side in the buffer: the positions never decrease and never exceed its
length, and from the first to the last one it consists of the items. -/
structure Tiles (data : Bytes) (pos : ℕ) (trace : List (Item × ℕ)) : Prop where
  ascending : (positions pos trace).Pairwise (· ≤ ·)
  inside : ∀ q ∈ positions pos trace, q ≤ data.length
  whole : Slice.get data pos (final pos trace) = some (encodeAll data pos trace)

@[simp] lemma positions_cons (pos : ℕ) (x : Item) (trace : List (Item × ℕ)) :
    positions pos ((x, stop) :: trace) = pos :: positions stop trace := rfl

lemma mem_positions_self (pos : ℕ) (trace : List (Item × ℕ)) : pos ∈ positions pos trace :=
  List.mem_cons_self

lemma Tiles.cons {trace : List (Item × ℕ)} (h : c.run data pos = .ok (x, stop))
    (ht : Tiles data stop trace) : Tiles data pos ((x, stop) :: trace) := by
  obtain ⟨hstop, hdrop, hsize⟩ := Call.run_spec h
  have hle : stop ≤ data.length := ht.inside stop (mem_positions_self stop trace)
  obtain ⟨⟨hfirst, hlast⟩, hrest⟩ := Slice.get_eq_some.mp ht.whole
  refine ⟨?_, ?_, ?_⟩
  · rw [positions_cons, List.pairwise_cons]
    refine ⟨fun q hq => ?_, ht.ascending⟩
    have hq' : stop ≤ q := by
      rcases List.mem_cons.mp hq with rfl | hq
      · exact le_rfl
      · exact (List.pairwise_cons.mp ht.ascending).1 q hq
    omega
  · rw [positions_cons, List.forall_mem_cons]
    exact ⟨by omega, ht.inside⟩
  · have hsplit : final stop trace - pos = c.need data pos + (final stop trace - stop) := by omega
    rw [Slice.get_eq_some, final, encodeAll]
    refine ⟨⟨by omega, hlast⟩, ?_⟩
    rw [hdrop, hsplit, ← hsize, List.take_length_add_append, hrest]

/-- **The items of every run of calls tile the buffer.** -/
lemma readAll_tiles {calls : List Call} {trace : List (Item × ℕ)} (hpos : pos ≤ data.length)
    (h : readAll data pos calls = .ok trace) : Tiles data pos trace := by
  induction calls generalizing pos trace with
  | nil =>
    obtain rfl : [] = trace := by simpa [readAll] using h
    exact ⟨by simp [positions], by simpa [positions] using hpos,
      by simpa [final, encodeAll] using hpos⟩
  | cons c cs ih =>
    simp only [readAll, Outcome.bind_eq_ok, Prod.exists, Outcome.pure_eq, Outcome.ok.injEq] at h
    obtain ⟨x, stop, hrun, rest, hrest, rfl⟩ := h
    have hle : stop ≤ data.length := by
      obtain ⟨rfl, hdrop, hsize⟩ := Call.run_spec hrun
      have hlen := congrArg List.length hdrop
      rw [List.length_drop, List.length_append, hsize] at hlen
      omega
    exact (ih hle hrest).cons hrun

lemma safe_readAll (calls : List Call) : (readAll data pos calls).Safe := by
  induction calls generalizing pos with
  | nil => exact Outcome.safe_ok _
  | cons c cs ih =>
    refine Outcome.Safe.bind Call.safe_run fun r _ => ?_
    exact Outcome.Safe.bind ih fun _ _ => Outcome.safe_pure _

/-- **The cursor readers tile the buffer.** What any sequence of calls reads lies side by side
from the first position to the last one, and a call fails exactly when fewer bytes remain than
it needs. No call panics. -/
theorem readers_tile (data : Bytes) (hlen : data.length < 2 ^ 64) (pos : ℕ)
    (hpos : pos ≤ data.length) (calls : List Call) :
    (∀ trace, readAll data pos calls = .ok trace → Tiles data pos trace) ∧
    readAll data pos calls ≠ .panic ∧
    ∀ q ≤ data.length, ∀ c : Call,
      ((∃ e, c.run data q = .err e) ↔ data.length - q < c.need data q) ∧
      c.run data q ≠ .panic :=
  ⟨fun _ h => readAll_tiles hpos h, safe_readAll calls,
    fun _ hq _ => ⟨Call.run_fails_iff hlen hq, Call.safe_run⟩⟩

/-- A number, a tag, a blob and a skipped byte. -/
def buffer : Bytes :=
  [0xff, 0x54, 0x43, 0x47, 0x80, 0x17, 0x00, 0x02, 0xaa, 0xbb, 0x00, 0x01]

def bufferTrace : List (Item × ℕ) :=
  [(.u32 0xff544347, 4), (.u16 0x8017, 6), (.blob [0xaa, 0xbb], 10), (.skipped 1, 11)]

theorem readers_tile_buffer :
    readAll buffer 0 [.readU32Be, .readU16Be, .readBlob, .skip 1] = .ok bufferTrace ∧
    Tiles buffer 0 bufferTrace ∧ ∃ e, Call.run buffer 11 .readU16Be = .err e := by
  have hlen : buffer.length < 2 ^ 64 := by decide
  have hread : readAll buffer 0 [.readU32Be, .readU16Be, .readBlob, .skip 1] =
      .ok bufferTrace := by
    decide
  have h := readers_tile buffer hlen 0 (Nat.zero_le _)
    [.readU32Be, .readU16Be, .readBlob, .skip 1]
  exact ⟨hread, h.1 _ hread, (h.2.2 11 (by decide) .readU16Be).1.mpr (by decide)⟩

end Caden.TpmCursor
