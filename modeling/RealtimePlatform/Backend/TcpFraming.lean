import RealtimePlatform.Backend.Frame
import Mathlib.Data.List.Basic

/-!
# Reading frames from a TCP stream

The reading side of `TcpController::handle_connection`. Each iteration of the loop starts a `read_exact`
into a fresh buffer and races it against the relay queue; when a relayed message wins, the pending read
is dropped with the bytes it has taken. A schedule says how many bytes arrive between two such losses.
-/

namespace RealtimePlatform.Backend.TcpFraming

inductive SocketEvent where
  | read (count : Nat)
  | relayed

structure ReadLoop where
  position : Nat
  buf : List UInt8
  handed : List (List UInt8)

def pushByte (byte : UInt8) (loop : ReadLoop) : ReadLoop :=
  let buf := loop.buf ++ [byte]
  if buf.length = frameSize then ⟨loop.position + 1, [], loop.handed ++ [buf]⟩
  else ⟨loop.position + 1, buf, loop.handed⟩

def readBytes (stream : Nat → UInt8) : Nat → ReadLoop → ReadLoop
  | 0, loop => loop
  | count + 1, loop => readBytes stream count (pushByte (stream loop.position) loop)

def step (stream : Nat → UInt8) (loop : ReadLoop) : SocketEvent → ReadLoop
  | .read count => readBytes stream count loop
  | .relayed => { loop with buf := [] }

def run (stream : Nat → UInt8) (loop : ReadLoop) (schedule : List SocketEvent) : ReadLoop :=
  schedule.foldl (step stream) loop

def opened : ReadLoop := ⟨0, [], []⟩

/-- Bytes `[start, start + size)` of the stream. -/
def window (stream : Nat → UInt8) (start size : Nat) : List UInt8 :=
  (List.range size).map fun i => stream (start + i)

/-- The `k`-th buffer handed to `Frame::parse` is bytes `[256 k, 256 k + 256)` of the stream. -/
def Framed (stream : Nat → UInt8) (handed : List (List UInt8)) : Prop :=
  ∀ k buf, handed[k]? = some buf → buf = window stream (frameSize * k) frameSize

/-- How many buffers a schedule completes when `fill` bytes of the current one have been read. -/
def completed : Nat → List SocketEvent → Nat
  | _, [] => 0
  | fill, .read count :: rest =>
    (fill + count) / frameSize + completed ((fill + count) % frameSize) rest
  | _, .relayed :: rest => completed 0 rest

/-- No message is relayed while a frame is partly read, unless no further buffer is completed. -/
def Undisturbed : Nat → List SocketEvent → Prop
  | _, [] => True
  | fill, .read count :: rest => Undisturbed ((fill + count) % frameSize) rest
  | fill, .relayed :: rest => (fill = 0 ∨ completed 0 rest = 0) ∧ Undisturbed 0 rest

/-- The stream positions at which the completed buffers start, the current one starting at `start`. -/
def offsets : Nat → Nat → List SocketEvent → List Nat
  | _, _, [] => []
  | start, fill, .read count :: rest =>
    (List.range ((fill + count) / frameSize)).map (fun j => start + frameSize * j) ++
      offsets (start + frameSize * ((fill + count) / frameSize)) ((fill + count) % frameSize) rest
  | start, fill, .relayed :: rest => offsets (start + fill) 0 rest

theorem length_offsets (start fill : Nat) (schedule : List SocketEvent) :
    (offsets start fill schedule).length = completed fill schedule := by
  induction schedule generalizing start fill with
  | nil => rfl
  | cons event rest ih => cases event <;> simp [offsets, completed, ih]

theorem window_succ (stream : Nat → UInt8) (start size : Nat) :
    window stream start (size + 1) = window stream start size ++ [stream (start + size)] := by
  simp [window, List.range_succ]

theorem length_window (stream : Nat → UInt8) (start size : Nat) :
    (window stream start size).length = size := by simp [window]

theorem head_window (stream : Nat → UInt8) (start : Nat) :
    (window stream start frameSize)[0]? = some (stream start) := by simp [window, frameSize]

/-- The loop with `fill` bytes read of the buffer that starts at `start`. -/
def between (stream : Nat → UInt8) (start fill : Nat) (handed : List (List UInt8)) : ReadLoop :=
  ⟨start + fill, window stream start fill, handed⟩

theorem readBytes_between (stream : Nat → UInt8) (count start fill : Nat)
    (handed : List (List UInt8)) (partly : fill < frameSize) :
    readBytes stream count (between stream start fill handed) =
      between stream (start + frameSize * ((fill + count) / frameSize)) ((fill + count) % frameSize)
        (handed ++ ((List.range ((fill + count) / frameSize)).map fun j => start + frameSize * j).map
          fun offset => window stream offset frameSize) := by
  induction count generalizing start fill handed with
  | zero =>
      have quotient : fill / frameSize = 0 := Nat.div_eq_of_lt partly
      have remainder : fill % frameSize = fill := Nat.mod_eq_of_lt partly
      simp [readBytes, quotient, remainder]
  | succ count ih =>
      have pushed : (between stream start fill handed).buf ++ [stream (start + fill)] =
          window stream start (fill + 1) := (window_succ stream start fill).symm
      by_cases full : fill + 1 = frameSize
      · have next : pushByte (stream (start + fill)) (between stream start fill handed) =
            between stream (start + frameSize) 0 (handed ++ [window stream start frameSize]) := by
          have position : start + fill + 1 = start + frameSize := by omega
          simp only [pushByte, pushed, length_window, full, if_true]
          simp [between, window, position]
        have quotient : (fill + (count + 1)) / frameSize = count / frameSize + 1 := by
          rw [← Nat.add_div_right count (by decide : 0 < frameSize), ← full]
          congr 1
          omega
        have remainder : (fill + (count + 1)) % frameSize = count % frameSize := by
          rw [← Nat.add_mod_right count frameSize, ← full]
          congr 1
          omega
        show readBytes stream count (pushByte (stream (start + fill)) _) = _
        rw [next, ih _ 0 _ (by decide), quotient, remainder, Nat.zero_add, List.range_succ_eq_map]
        have starts : ∀ j, start + frameSize + frameSize * j = start + frameSize * (j + 1) := by
          intro j
          rw [Nat.mul_add]
          omega
        simp only [starts, List.map_cons, List.map_map, Nat.mul_zero, Nat.add_zero, List.append_assoc,
          List.singleton_append]
        rfl
      · have next : pushByte (stream (start + fill)) (between stream start fill handed) =
            between stream start (fill + 1) handed := by
          simp only [pushByte, pushed, length_window, full, if_false]
          rfl
        show readBytes stream count (pushByte (stream (start + fill)) _) = _
        rw [next, ih start (fill + 1) handed (by omega), Nat.add_right_comm fill 1 count]
        rfl

theorem run_between (stream : Nat → UInt8) (schedule : List SocketEvent) (start fill : Nat)
    (handed : List (List UInt8)) (partly : fill < frameSize) :
    (run stream (between stream start fill handed) schedule).handed =
      handed ++ (offsets start fill schedule).map fun offset => window stream offset frameSize := by
  induction schedule generalizing start fill handed with
  | nil => simp [run, between, offsets]
  | cons event rest ih =>
      cases event with
      | read count =>
          have shorter : (fill + count) % frameSize < frameSize := Nat.mod_lt _ (by decide)
          show (run stream (readBytes stream count _) rest).handed = _
          rw [readBytes_between stream count start fill handed partly, ih _ _ _ shorter]
          simp [offsets]
      | relayed =>
          show (run stream (between stream (start + fill) 0 handed) rest).handed = _
          rw [ih (start + fill) 0 handed (by decide)]
          rfl

theorem handed_run (stream : Nat → UInt8) (schedule : List SocketEvent) :
    (run stream opened schedule).handed =
      (offsets 0 0 schedule).map fun offset => window stream offset frameSize :=
  run_between stream schedule 0 0 [] (by decide)

end RealtimePlatform.Backend.TcpFraming
