import JavadocNames.Failure

/-!
# Sinks

A sink takes bytes and hands them on to a device, at once or through a buffer.  A device
with a limit takes exactly the first bytes up to its limit and refuses the next one.  A
buffer keeps bytes until it is full, and what it still keeps is handed on when it is
flushed or given up.
-/

namespace JavadocNames

/-- What takes bytes in the end.  With a limit there is room for exactly that many. -/
structure Device where
  limit : Option Nat
  accepted : Bytes

namespace Device

/-- The number of bytes for which there is room still. -/
def room (device : Device) : Option Nat :=
  device.limit.map (· - device.accepted.length)

/-- Take bytes as far as there is room.  The answer tells which are left over. -/
def take (device : Device) (bytes : Bytes) : Device × Bytes :=
  match device.room with
  | none => ({ device with accepted := device.accepted ++ bytes }, [])
  | some n => ({ device with accepted := device.accepted ++ bytes.take n }, bytes.drop n)

end Device

/-- Where output is written to. -/
inductive Sink where
  | direct (device : Device)
  /-- A buffer of a fixed size in front of a device, with the bytes that wait in it. -/
  | buffered (size : Nat) (waiting : Bytes) (device : Device)

namespace Sink

/-- A device that has taken nothing yet, without a buffer. -/
def empty (limit : Option Nat) : Sink :=
  direct ⟨limit, []⟩

/-- The bytes that the device of the sink has taken. -/
def accepted : Sink → Bytes
  | direct device => device.accepted
  | buffered _ _ device => device.accepted

/-- What a sink answers when some bytes were left over. -/
def answer (left : Bytes) : Except Failure Unit :=
  if left = [] then .ok () else .error .sinkFull

/-- Hand on what waits in the buffer.  What the device refuses stays there. -/
def flush : Sink → Sink × Except Failure Unit
  | direct device => (direct device, .ok ())
  | buffered size waiting device =>
      let (device, left) := device.take waiting
      (buffered size left device, answer left)

/-- Write bytes.  Those for which the buffer has no room come behind what waits in it, so
that is handed on first; and bytes that would fill the whole buffer go past it. -/
def write : Sink → Bytes → Sink × Except Failure Unit
  | direct device, bytes =>
      let (device, left) := device.take bytes
      (direct device, answer left)
  | buffered size waiting device, bytes =>
      if waiting.length + bytes.length ≤ size ∧ bytes.length < size then
        (buffered size (waiting ++ bytes) device, .ok ())
      else
        match device.take waiting with
        | (device, []) =>
            if bytes.length < size then (buffered size bytes device, .ok ())
            else
              let (device, left) := device.take bytes
              (buffered size [] device, answer left)
        | (device, left) => (buffered size left device, .error .sinkFull)

/-- Give up the sink.  What waits in a buffer is handed on, and nobody is told whether
that was refused. -/
def close (sink : Sink) : Sink :=
  sink.flush.1

end Sink

end JavadocNames
