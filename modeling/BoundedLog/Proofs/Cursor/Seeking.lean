import BoundedLog.Proofs.Cursor.Reading
import Mathlib.Algebra.GroupWithZero.Nat
import Mathlib.Logic.Function.Basic

/-!
# Seeking

A seek aims at a number, counted from the first byte, from the position or from the end of the log.
If the number is within the log, the cursor is moved there and the number is handed out, wherever
the cursor stood before. Otherwise the number and the size of the log are reported, and all stays as
it is. Others may have moved the content of the log from under a cursor, by writing or closing, so
a cursor may stand behind the end; but none stands further than the log ever was long. So as long as
the length of the log fits a word, what a seek computes fits a double word, and computing with words
leads to the same number.
-/

namespace BoundedLog

/-! ### One seek -/

namespace Cursor

variable {ε : Type} {log : SharedLog}

theorem run_inPlace (move : Cursor → Except ε Cursor) (c : Cursor) :
  (inPlace move).run c =
    match move c with
    | .error cause => (.error cause, c)
    | .ok next => (.ok next.position, next)
  := by
  rw [inPlace, StateT.run_bind, StateT.run_get, pure_bind]
  cases move c with
  | error cause => rfl
  | ok next => rfl

/-- A seek within the log moves the cursor. -/
theorem seek_of_within {c : Cursor} {s : Seek} {n : Nat} (htarget : c.target log s = n)
    (hn : n ≤ log.window.size) :
  c.seek log s = .ok { c with position := n }
  := by
  have hwithin : ¬ ((n : Int) < 0 ∨ (log.window.size : Int) < n) := by
    omega
  rw [seek, htarget, Int.toNat_natCast]
  apply if_neg
  simpa using hwithin

/-- A seek to anywhere else is refused. -/
theorem seek_of_outside {c : Cursor} {s : Seek}
    (h : ¬ (0 ≤ c.target log s ∧ c.target log s ≤ log.window.size)) :
  c.seek log s = .error (.noPosition (c.target log s) log.window.size)
  := by
  have houtside : c.target log s < 0 ∨ (log.window.size : Int) < c.target log s := by
    omega
  rw [seek]
  apply if_pos
  simpa using houtside

theorem seek_cases (c : Cursor) (log : SharedLog) (s : Seek) :
  (∃ n : Nat, c.target log s = n ∧ n ≤ log.window.size)
    ∨ ¬ (0 ≤ c.target log s ∧ c.target log s ≤ log.window.size)
  := by
  by_cases hwithin : 0 ≤ c.target log s ∧ c.target log s ≤ log.window.size
  · obtain ⟨n, hn⟩ := Int.eq_ofNat_of_zero_le hwithin.1
    left
    use n, hn
    omega
  · right
    apply hwithin

theorem position_read_le (h : log.window.Reachable) (c : Cursor) (limit : Nat) :
  (c.read log limit).2.position ≤ max c.position log.window.size
  := by
  have hlength := (log.read_prefix_readFrom h c.position limit).length_le
  rw [log.length_readFrom h] at hlength
  show c.position + (log.read c.position limit).length ≤ _
  omega

end Cursor

/-- The place of a byte is within the log. -/
theorem SharedLog.place_lt {log : SharedLog} (h : log.window.Reachable) {index offset place : Nat}
    (hplace : log.seek index offset = .ok place) :
  place < log.window.size
  := by
  obtain ⟨record, hlocated⟩ := h.holds.position_eq_ok_iff_locate?.mp hplace
  rw [← Nat.not_le, ← h.holds.locate?_eq_none_iff, hlocated]
  nofun

/-! ### Seeking with words -/

/-- A seek in words: a distance from the first byte has no sign, the others have one. -/
inductive WordSeek
  | start (distance : UInt64)
  | current (distance : Int64)
  | fromEnd (distance : Int64)
  deriving DecidableEq, Repr

namespace WordSeek

/-- The seek by the number that the word stands for. -/
def exact : WordSeek → Seek
  | start distance => .start distance.toNat
  | current distance => .current distance.toInt
  | fromEnd distance => .fromEnd distance.toInt

/-- A word without a sign as a double word. -/
def unsigned (word : UInt64) : BitVec 128 := word.toBitVec.setWidth 128

/-- A word with a sign as a double word. -/
def signed (word : Int64) : BitVec 128 := word.toBitVec.signExtend 128

/-- What the seek aims at, as a sum of double words. -/
def target (position size : UInt64) : WordSeek → BitVec 128
  | start distance => unsigned distance
  | current distance => unsigned position + signed distance
  | fromEnd distance => unsigned size + signed distance

/-- The word of the position to which the seek leads, or the double word that is refused. -/
def resolve (position size : UInt64) (s : WordSeek) : Except (BitVec 128) UInt64 :=
  let target := s.target position size
  if target.slt 0 || (unsigned size).slt target then .error target
  else .ok ⟨target.setWidth 64⟩

theorem toInt_unsigned (word : UInt64) :
  (unsigned word).toInt = word.toNat
  := by
  have hlt := word.toNat_lt
  rw [unsigned, BitVec.toInt_setWidth, UInt64.toNat_toBitVec, Int.bmod_eq_of_le]
  · omega
  · omega

theorem toInt_signed (word : Int64) :
  (signed word).toInt = word.toInt
  := by
  rw [signed, BitVec.toInt_signExtend_of_le (by decide)]
  rfl

/-- Double words are wide enough for the sum of two words. -/
theorem toInt_unsigned_add_signed (word : UInt64) (distance : Int64) :
  (unsigned word + signed distance).toInt = word.toNat + distance.toInt
  := by
  have hlt := word.toNat_lt
  have hlow := distance.le_toInt
  have hhigh := distance.toInt_lt
  rw [BitVec.toInt_add, toInt_unsigned, toInt_signed, Int.bmod_eq_of_le]
  · omega
  · omega

variable {c : Cursor} {log : SharedLog} {position size : UInt64}

theorem toInt_target (hposition : position.toNat = c.position)
    (hsize : size.toNat = log.window.size) (s : WordSeek) :
  (s.target position size).toInt = c.target log s.exact
  := by
  cases s with
  | start distance => apply toInt_unsigned
  | current distance =>
    rw [target, toInt_unsigned_add_signed, hposition]
    rfl
  | fromEnd distance =>
    rw [target, toInt_unsigned_add_signed, hsize]
    rfl

/-- Double words are compared as the numbers are. -/
theorem outside_iff (hsize : size.toNat = log.window.size) (target : BitVec 128) :
  (target.slt 0 || (unsigned size).slt target) = true
    ↔ ¬ (0 ≤ target.toInt ∧ target.toInt ≤ log.window.size)
  := by
  have hzero : (0 : BitVec 128).toInt = 0 := BitVec.toInt_zero
  rw [Bool.or_eq_true, BitVec.slt_iff_toInt_lt, BitVec.slt_iff_toInt_lt, toInt_unsigned, hsize,
    hzero]
  omega

/-- A double word that stands for a position within the log fits a word. -/
theorem toNat_word {target : BitVec 128} {n : Nat} (htarget : target.toInt = n) (hn : n < 2 ^ 64) :
  UInt64.toNat ⟨target.setWidth 64⟩ = n
  := by
  have hnat : target.toNat = n := by
    have hlt := target.isLt
    rw [BitVec.toInt_eq_toNat_cond] at htarget
    split at htarget <;> omega
  show (target.setWidth 64).toNat = n
  rw [BitVec.toNat_setWidth, hnat, Nat.mod_eq_of_lt hn]

/-- A seek in words leads where the seek leads, and is refused for the same reason. -/
theorem seek_exact (hposition : position.toNat = c.position)
    (hsize : size.toNat = log.window.size) (s : WordSeek) :
  c.seek log s.exact
    = ((s.resolve position size).map fun word => { c with position := word.toNat }).mapError
      fun target => .noPosition target.toInt log.window.size
  := by
  have htarget := toInt_target hposition hsize s
  rcases c.seek_cases log s.exact with ⟨n, hn, hwithin⟩ | houtside
  · have hresolve : s.resolve position size = .ok ⟨(s.target position size).setWidth 64⟩ := by
      rw [resolve]
      apply if_neg
      rw [outside_iff hsize, htarget, hn]
      omega
    have hword := toNat_word (htarget.trans hn) (Nat.lt_of_le_of_lt (hsize ▸ hwithin) size.toNat_lt)
    rw [hresolve, Cursor.seek_of_within hn hwithin, ← hword]
    rfl
  · have hresolve : s.resolve position size = .error (s.target position size) := by
      rw [resolve]
      apply if_pos
      rw [outside_iff hsize, htarget]
      apply houtside
    rw [hresolve, Cursor.seek_of_outside houtside, ← htarget]
    rfl

/-- The farthest distance from the first byte is not taken for a step back. -/
example : (start 0xFFFFFFFFFFFFFFFF).resolve 1 1 = .error 0xFFFFFFFFFFFFFFFF := by
  decide

end WordSeek

/-! ### Cursors on one log -/

/-- A log and the cursors that are open on it. -/
structure CursorDesk (Handle : Type) where
  log : SharedLog
  cursors : Handle → Cursor := fun _ => {}

namespace CursorDesk

/-- What is done with the log of a desk, through a cursor or not. -/
inductive Move (Handle : Type)
  /-- A cursor is dropped and opened again. -/
  | reopen (handle : Handle)
  | write (handle : Handle) (bytes : Bytes)
  | read (handle : Handle) (limit : Nat)
  | seek (handle : Handle) (s : Seek)
  | seekTo (handle : Handle) (index offset : Nat)
  /-- Somebody adds bytes to a draft that is not one of a cursor. -/
  | accept (draft : Draft) (bytes : Bytes)
  | close

/-- What one is told about it. -/
inductive Outcome
  | done
  | read (bytes : Bytes)
  | sought (outcome : Except IoError Nat)
  | placed (outcome : Except RangeFault Nat)
  | closed (outcome : Except ResourceFault Unit)

variable {Handle : Type} [DecidableEq Handle] {w : CursorDesk Handle} {most : Nat}

/-- The desk with one cursor exchanged. -/
def exchange (w : CursorDesk Handle) (handle : Handle) (c : Cursor) : CursorDesk Handle :=
  { w with cursors := Function.update w.cursors handle c }

/-- The desk with one cursor at another position. -/
def place (w : CursorDesk Handle) (handle : Handle) (position : Nat) : CursorDesk Handle :=
  w.exchange handle { w.cursors handle with position }

/-- One move. -/
def act (w : CursorDesk Handle) : Move Handle → StateM Disk (Outcome × CursorDesk Handle)
  | .reopen handle => return (.done, w.exchange handle {})
  | .write handle bytes => do
    let (log, c) ← (w.cursors handle).write w.log bytes
    return (.done, { w.exchange handle c with log })
  | .read handle limit =>
    let (bytes, c) := (w.cursors handle).read w.log limit
    return (.read bytes, w.exchange handle c)
  | .seek handle s =>
    let (outcome, c) := (Cursor.seekInPlace w.log s).run (w.cursors handle)
    return (.sought outcome, w.exchange handle c)
  | .seekTo handle index offset =>
    let (outcome, c) := (Cursor.seekToInPlace w.log index offset).run (w.cursors handle)
    return (.placed outcome, w.exchange handle c)
  | .accept draft bytes => do
    let (_, log, _) ← w.log.accept draft bytes
    return (.done, { w with log })
  | .close => do
    let (log, outcome) ← w.log.close
    return (.closed outcome, { w with log })

theorem exchange_self (w : CursorDesk Handle) (handle : Handle) :
  w.exchange handle (w.cursors handle) = w
  := by
  rw [exchange, Function.update_eq_self]

theorem run_act_seek_of_within {handle : Handle} {s : Seek} {n : Nat}
    (htarget : (w.cursors handle).target w.log s = n) (hn : n ≤ w.log.window.size) (d : Disk) :
  (w.act (.seek handle s)).run d
    = ((.sought (.ok n), w.place handle n), d)
  := by
  have hrun : (Cursor.seekInPlace w.log s).run (w.cursors handle)
      = (.ok n, { w.cursors handle with position := n }) := by
    rw [Cursor.seekInPlace, Cursor.run_inPlace, Cursor.seek_of_within htarget hn]
    rfl
  rw [act, hrun]
  rfl

theorem run_act_seek_of_outside {handle : Handle} {s : Seek} {target : Int}
    (htarget : (w.cursors handle).target w.log s = target)
    (h : ¬ (0 ≤ target ∧ target ≤ w.log.window.size)) (d : Disk) :
  (w.act (.seek handle s)).run d
    = ((.sought (.error (.because .invalidInput
        (RangeFault.noPosition target w.log.window.size).message)), w), d)
  := by
  have hrun : (Cursor.seekInPlace w.log s).run (w.cursors handle)
      = (.error (.because .invalidInput
        (RangeFault.noPosition target w.log.window.size).message), w.cursors handle) := by
    rw [← htarget] at h
    rw [Cursor.seekInPlace, Cursor.run_inPlace, Cursor.seek_of_outside h, htarget]
    rfl
  rw [act, hrun]
  show ((_, w.exchange handle (w.cursors handle)), d) = _
  rw [exchange_self]

theorem run_act_seekTo_of_ok {handle : Handle} {index offset place : Nat}
    (h : w.log.seek index offset = .ok place) (d : Disk) :
  (w.act (.seekTo handle index offset)).run d
    = ((.placed (.ok place), w.place handle place), d)
  := by
  have hrun : (Cursor.seekToInPlace w.log index offset).run (w.cursors handle)
      = (.ok place, { w.cursors handle with position := place }) := by
    rw [Cursor.seekToInPlace, Cursor.run_inPlace, Cursor.seekTo, h]
    rfl
  rw [act, hrun]
  rfl

theorem run_act_seekTo_of_error {handle : Handle} {index offset : Nat} {fault : RangeFault}
    (h : w.log.seek index offset = .error fault) (d : Disk) :
  (w.act (.seekTo handle index offset)).run d = ((.placed (.error fault), w), d)
  := by
  have hrun : (Cursor.seekToInPlace w.log index offset).run (w.cursors handle)
      = (.error fault, w.cursors handle) := by
    rw [Cursor.seekToInPlace, Cursor.run_inPlace, Cursor.seekTo, h]
    rfl
  rw [act, hrun]
  show ((_, w.exchange handle (w.cursors handle)), d) = _
  rw [exchange_self]

/-! ### Where cursors stand -/

/-- The desks to which moves lead from an empty log, whatever becomes of the disk meanwhile, while
the log never holds more than so many bytes. -/
inductive Reachable (most : Nat) : CursorDesk Handle → Prop
  | start (capacity : Nat) (replica : Option Replica) :
    Reachable most { log := { window := .ofCapacity capacity, replica } }
  | act {w : CursorDesk Handle} (h : Reachable most w) (m : Move Handle) (d : Disk)
      (hsize : ((w.act m).run d).1.2.log.stats.size ≤ most) :
    Reachable most ((w.act m).run d).1.2

/-- No cursor stands further than the log ever was long. -/
structure Bounded (most : Nat) (w : CursorDesk Handle) : Prop where
  log : w.log.Reachable
  size_le : w.log.window.size ≤ most
  position_le : ∀ handle, (w.cursors handle).position ≤ most

theorem Bounded.exchange (h : w.Bounded most) (handle : Handle) {c : Cursor}
    (hc : c.position ≤ most) :
  (w.exchange handle c).Bounded most
  := by
  refine ⟨h.log, h.size_le, fun other => ?_⟩
  show (Function.update w.cursors handle c other).position ≤ most
  by_cases hother : other = handle
  · rw [hother, Function.update_self]
    exact hc
  · rw [Function.update_of_ne hother]
    apply h.position_le

theorem Bounded.act (h : w.Bounded most) (m : Move Handle) (d : Disk)
    (hsize : ((w.act m).run d).1.2.log.window.size ≤ most) :
  ((w.act m).run d).1.2.Bounded most
  := by
  cases m with
  | reopen handle => apply h.exchange handle (Nat.zero_le most)
  | write handle bytes =>
    have hlog := h.log.accept (w.cursors handle).draft bytes d
    have hcursor : ((w.act (.write handle bytes)).run d).1.2.cursors
        = (w.exchange handle { w.cursors handle with
          draft := ((w.log.accept (w.cursors handle).draft bytes).run d).1.2.2 }).cursors := rfl
    refine ⟨hlog, hsize, ?_⟩
    rw [hcursor]
    apply (h.exchange handle _).position_le
    apply h.position_le handle
  | read handle limit =>
    have hmost : max (w.cursors handle).position w.log.window.size ≤ most :=
      Nat.max_le.mpr ⟨h.position_le handle, h.size_le⟩
    apply h.exchange handle
    apply Nat.le_trans (Cursor.position_read_le h.log.window _ limit) hmost
  | seek handle s =>
    rcases (w.cursors handle).seek_cases w.log s with ⟨n, htarget, hn⟩ | houtside
    · rw [run_act_seek_of_within htarget hn]
      apply h.exchange handle (Nat.le_trans hn h.size_le)
    · rw [run_act_seek_of_outside rfl houtside]
      exact h
  | seekTo handle index offset =>
    cases hplace : w.log.seek index offset with
    | ok place =>
      rw [run_act_seekTo_of_ok hplace]
      apply h.exchange handle
      apply Nat.le_trans (Nat.le_of_lt (SharedLog.place_lt h.log.window hplace)) h.size_le
    | error fault =>
      rw [run_act_seekTo_of_error hplace]
      exact h
  | accept draft bytes => exact ⟨h.log.accept draft bytes d, hsize, h.position_le⟩
  | close => exact ⟨h.log.close d, hsize, h.position_le⟩

theorem Reachable.bounded (h : w.Reachable most) :
  w.Bounded most
  := by
  induction h with
  | start capacity replica =>
    exact ⟨.ofCapacity capacity replica, Nat.zero_le most, fun _ => Nat.zero_le most⟩
  | act _ m d hsize ih => apply ih.act m d hsize

/-! ### What a seek does -/

/-- Whatever has been written, evicted or closed since a cursor was last moved, a seek leads to the
number that it aims at, or it says which number lies outside of how many bytes and changes nothing;
in the same way a seek to a byte of a record leads there or reports its fault. Nothing but the
position of the one cursor is moved. As long as the log never held more bytes than a word counts,
words compute all this without overflow. -/
theorem seek_exact_or_unchanged (h : w.Reachable most) (handle : Handle) (d : Disk) :
  (∀ (s : Seek) (n : Nat),
    (w.cursors handle).target w.log s = n → n ≤ w.log.stats.size →
      (w.act (.seek handle s)).run d = ((.sought (.ok n), w.place handle n), d))
  ∧ (∀ (s : Seek) (target : Int),
    (w.cursors handle).target w.log s = target → ¬ (0 ≤ target ∧ target ≤ w.log.stats.size) →
      (w.act (.seek handle s)).run d
        = ((.sought (.error (.because .invalidInput
            s!"seek target {target} outside store of {w.log.stats.size} bytes")), w), d))
  ∧ (∀ index offset place, w.log.seek index offset = .ok place →
      place < w.log.stats.size
        ∧ (w.act (.seekTo handle index offset)).run d
          = ((.placed (.ok place), w.place handle place), d))
  ∧ (∀ index offset fault, w.log.seek index offset = .error fault →
      (w.act (.seekTo handle index offset)).run d = ((.placed (.error fault), w), d))
  ∧ (most < 2 ^ 64 → ∃ position size : UInt64,
      position.toNat = (w.cursors handle).position ∧ size.toNat = w.log.stats.size
      ∧ ∀ s : WordSeek,
        (s.target position size).toInt = (w.cursors handle).target w.log s.exact
        ∧ (w.cursors handle).seek w.log s.exact
          = ((s.resolve position size).map fun word =>
              { w.cursors handle with position := word.toNat }).mapError
            fun target => .noPosition target.toInt w.log.stats.size)
  := by
  refine ⟨fun s n htarget hn => ?within, fun s target htarget houtside => ?outside,
    fun index offset place hplace => ?placed, fun index offset fault hfault => ?unplaced,
    fun hmost => ?words⟩
  case within => apply run_act_seek_of_within htarget hn
  case outside => apply run_act_seek_of_outside htarget houtside
  case placed =>
    constructor
    · apply SharedLog.place_lt h.bounded.log.window hplace
    · apply run_act_seekTo_of_ok hplace
  case unplaced => apply run_act_seekTo_of_error hfault
  case words =>
    have hposition := UInt64.toNat_ofNat_of_lt'
      (Nat.lt_of_le_of_lt (h.bounded.position_le handle) hmost)
    have hsize := UInt64.toNat_ofNat_of_lt' (Nat.lt_of_le_of_lt h.bounded.size_le hmost)
    refine ⟨_, _, hposition, hsize, fun s => ⟨?_, ?_⟩⟩
    · apply WordSeek.toInt_target hposition hsize
    · apply WordSeek.seek_exact hposition hsize

/-- A cursor that another one left behind the end of the log finds its way back. -/
theorem seek_behind_end :
  ∃ w : CursorDesk Bool, w.Reachable 3 ∧ w.log.stats.size = 0 ∧ (w.cursors false).position = 3
    ∧ ∀ d,
      (w.act (.seek false (.current 0))).run d
        = ((.sought (.error (.because .invalidInput "seek target 3 outside store of 0 bytes")), w),
          d)
      ∧ (w.act (.seek false (.current (-3)))).run d = ((.sought (.ok 0), w.place false 0), d)
  := by
  have hempty : Reachable 3 ({ log := .ofCapacity 1 } : CursorDesk Bool) := .start 1 none
  have hwritten := hempty.act (.write true [97, 98, 10]) ⟨.empty, [], []⟩ (by decide)
  have hread := hwritten.act (.read false 3) ⟨.empty, [], []⟩ (by decide)
  have hclosed := hread.act .close ⟨.empty, [], []⟩ (by decide)
  refine ⟨_, hclosed, by decide, by decide, fun d => ⟨?_, ?_⟩⟩
  · apply (seek_exact_or_unchanged hclosed false d).2.1 (.current 0) 3 (by decide) (by decide)
  · apply (seek_exact_or_unchanged hclosed false d).1 (.current (-3)) 0 (by decide) (by decide)

end CursorDesk

end BoundedLog
