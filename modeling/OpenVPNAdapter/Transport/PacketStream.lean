import OpenVPNAdapter.Library.BigEndian
import OpenVPNAdapter.Library.Framing

namespace OpenVPNAdapter.Transport

open Library.BigEndian Library.Framing

/-- A packet for a stream transport; its size has two bytes. -/
structure StreamPacket where
  bytes : List UInt8
  fits : bytes.length < 256 ^ 2
deriving DecidableEq, Repr

/-- `prepend_size`. -/
def prependSize (buf : List UInt8) : List UInt8 := digits 2 buf.length ++ buf

structure PacketStream where
  declaredSize : Option Nat
  buffer : List UInt8
deriving DecidableEq, Repr

namespace PacketStream

def new : PacketStream := ⟨none, []⟩

/-- `extract_size`, where two bytes are there to read; `none` is `embedded_packet_size_error`. -/
def extractSize (payload : Nat) (buf : List UInt8) : Option (Nat × List UInt8) :=
  let size := value (buf.take 2)
  if size = 0 ∨ size > payload then none else some (size, buf.drop 2)

/-- The loop that completes a size that came in parts; what is left of the fragment is returned. -/
def completeSize (payload : Nat) (buffer : List UInt8) : List UInt8 → Option (PacketStream × List UInt8)
  | [] => some (⟨none, buffer⟩, [])
  | b :: buf =>
      if 2 ≤ (buffer ++ [b]).length then
        (extractSize payload (buffer ++ [b])).map fun (size, buffer) => (⟨some size, buffer⟩, buf)
      else completeSize payload (buffer ++ [b]) buf

/-- The packet takes what it needs of the fragment. -/
def fill (s : PacketStream) (buf : List UInt8) : PacketStream × List UInt8 :=
  match s.declaredSize with
  | none => (s, buf)
  | some size =>
      if s.buffer.length < size then
        let needed := min (size - s.buffer.length) buf.length
        ({ s with buffer := s.buffer ++ buf.take needed }, buf.drop needed)
      else (s, buf)

/-- `put`: the stream and the rest of the fragment. -/
def put (payload : Nat) (s : PacketStream) (buf : List UInt8) : Option (PacketStream × List UInt8) :=
  if buf = [] then some (s, buf)
  else if s.declaredSize = none ∧ s.buffer = [] then
    if 2 ≤ buf.length then
      (extractSize payload buf).map fun (size, buf) =>
        -- a packet that is whole or undersized takes the fragment as its buffer
        if buf.length ≤ size then (⟨some size, buf⟩, []) else (⟨some size, buf.take size⟩, buf.drop size)
    else some (⟨none, buf⟩, [])
  else if s.declaredSize = none then (completeSize payload s.buffer buf).map fun (s, buf) => s.fill buf
  else some (s.fill buf)

def ready (s : PacketStream) : Bool := s.declaredSize.any fun size => size ≤ s.buffer.length

/-- `get`; `none` is `packet_not_fully_formed`. -/
def get (s : PacketStream) : Option (List UInt8 × PacketStream) :=
  if s.declaredSize = some s.buffer.length then some (s.buffer, new) else none

/-- A packet as it stands in the stream. -/
def framing : SelfDelimiting StreamPacket UInt8 where
  frame p := prependSize p.bytes
  frame_ne_nil p h := by
    have hlength := congrArg List.length h
    simp [prependSize] at hlength
  delimits p q x y h := by
    rw [prependSize, prependSize, List.append_assoc, List.append_assoc] at h
    obtain ⟨hsize, hrest⟩ := List.append_inj h (by rw [length_digits, length_digits])
    have hlength : p.bytes.length = q.bytes.length := by
      rw [← value_digits p.fits, hsize, value_digits q.fits]
    obtain ⟨hbytes, htail⟩ := List.append_inj hrest hlength
    cases p
    cases q
    simp only at hbytes
    subst hbytes
    exact ⟨rfl, htail⟩

/-- A stream between packets, or inside one whose size is admitted. -/
def Partial (payload : Nat) (s : PacketStream) : Prop :=
  match s.declaredSize with
  | none => s.buffer.length < 2
  | some size => 0 < size ∧ size ≤ payload ∧ size < 256 ^ 2 ∧ s.buffer.length < size

/-- The bytes of the packet that is not whole yet. -/
def pending (s : PacketStream) : List UInt8 :=
  match s.declaredSize with
  | none => s.buffer
  | some size => digits 2 size ++ s.buffer

theorem incomplete_pending {payload : Nat} {s : PacketStream} (h : Partial payload s) :
    Incomplete framing s.pending := by
  intro p more heq
  have hlength := congrArg List.length heq
  obtain ⟨declaredSize, buffer⟩ := s
  cases declaredSize with
  | none =>
      have hshort : buffer.length < 2 := h
      have hlength' : buffer.length = (prependSize p.bytes ++ more).length := hlength
      simp only [prependSize, List.length_append, length_digits] at hlength'
      omega
  | some size =>
      have hsize : size < 256 ^ 2 := h.2.2.1
      have hshort : buffer.length < size := h.2.2.2
      have heq' : digits 2 size ++ buffer = digits 2 p.bytes.length ++ (p.bytes ++ more) := by
        rw [← List.append_assoc]
        exact heq
      obtain ⟨hdigits, hbuffer⟩ := List.append_inj heq' (by rw [length_digits, length_digits])
      have hsame : size = p.bytes.length := by rw [← value_digits hsize, hdigits, value_digits p.fits]
      rw [hbuffer, List.length_append] at hshort
      omega

/-- A size that no packet may have. -/
def Refused (payload size : Nat) : Prop := size = 0 ∨ payload < size

theorem extractSize_cases (payload : Nat) {head : List UInt8} (h : 2 ≤ head.length) :
    ∃ size < 256 ^ 2, head = digits 2 size ++ head.drop 2 ∧
      (extractSize payload head = none ∧ Refused payload size ∨
        extractSize payload head = some (size, head.drop 2) ∧ 0 < size ∧ size ≤ payload) := by
  have htake : (head.take 2).length = 2 := by
    rw [List.length_take]
    omega
  have hlt := value_lt (head.take 2)
  rw [htake] at hlt
  have hdigits : digits 2 (value (head.take 2)) = head.take 2 := by
    have hall := digits_value (head.take 2)
    rwa [htake] at hall
  refine ⟨value (head.take 2), hlt, by rw [hdigits, List.take_append_drop], ?_⟩
  simp only [extractSize]
  split
  · rename_i hrefused
    exact .inl ⟨rfl, hrefused⟩
  · rename_i hadmitted
    exact .inr ⟨rfl, by omega, by omega⟩

/-- A stream that holds a packet to the last byte. -/
def Whole (payload : Nat) (s : PacketStream) : Prop :=
  s.declaredSize = some s.buffer.length ∧ 0 < s.buffer.length ∧ s.buffer.length ≤ payload ∧
    s.buffer.length < 256 ^ 2

/-- What a step makes of a stream and a fragment: no byte is lost or moved. -/
structure Moves (payload : Nat) (before : List UInt8) (after : PacketStream × List UInt8) : Prop where
  bytes : before = after.1.pending ++ after.2
  shape : Partial payload after.1 ∨ Whole payload after.1

variable {payload : Nat} {s : PacketStream} {buf : List UInt8}

/-- A packet takes bytes until it is whole. -/
theorem fill_moves {size : Nat} {buffer : List UInt8} (hpos : 0 < size) (hle : size ≤ payload)
    (hsize : size < 256 ^ 2) (hshort : buffer.length < size) (buf : List UInt8) :
    Moves payload (digits 2 size ++ buffer ++ buf) (fill ⟨some size, buffer⟩ buf) ∧
      (fill ⟨some size, buffer⟩ buf).2.length = buf.length - (size - buffer.length) := by
  simp only [fill, if_pos hshort]
  refine ⟨⟨?_, ?_⟩, ?_⟩
  · simp only [pending, List.append_assoc, List.take_append_drop]
  · by_cases henough : size - buffer.length ≤ buf.length
    · have hmin : min (size - buffer.length) buf.length = size - buffer.length := min_eq_left henough
      have hlength : (buffer ++ buf.take (size - buffer.length)).length = size := by
        rw [List.length_append, List.length_take, min_eq_left henough]
        omega
      refine .inr ?_
      simp only [Whole, hmin, hlength]
      exact ⟨trivial, hpos, hle, hsize⟩
    · have hmin : min (size - buffer.length) buf.length = buf.length := min_eq_right (by omega)
      refine .inl ⟨hpos, hle, hsize, ?_⟩
      rw [hmin, List.take_length, List.length_append]
      omega
  · rw [List.length_drop]
    omega

/-- A fragment that brings the whole size fills the packet with the rest. -/
theorem fill_fresh {size : Nat} (hpos : 0 < size) (buf : List UInt8) :
    (if buf.length ≤ size then ((⟨some size, buf⟩, []) : PacketStream × List UInt8)
      else (⟨some size, buf.take size⟩, buf.drop size)) = fill ⟨some size, []⟩ buf := by
  simp only [fill, List.length_nil, if_pos hpos, Nat.sub_zero, List.nil_append]
  split
  · rename_i hle
    rw [min_eq_right hle, List.take_length, List.drop_length]
  · rename_i hlt
    rw [min_eq_left (by omega)]

/-- What `put` does with a fragment that is not empty: it refuses the size, or takes bytes. -/
theorem put_cases (h : Partial payload s) (hbuf : buf ≠ []) :
    (s.put payload buf = none ∧
      ∃ size < 256 ^ 2, Refused payload size ∧ ∃ rest, s.pending ++ buf = digits 2 size ++ rest) ∨
    ∃ after, s.put payload buf = some after ∧ Moves payload (s.pending ++ buf) after ∧
      after.2.length < buf.length := by
  have hpos : 0 < buf.length := List.length_pos_iff.mpr hbuf
  obtain ⟨declaredSize, buffer⟩ := s
  cases declaredSize with
  | some size =>
      obtain ⟨hsizepos, hle, hsize, hshort⟩ := h
      obtain ⟨hmoves, hlength⟩ := fill_moves hsizepos hle hsize hshort buf
      refine .inr ⟨_, by simp [put, hbuf], hmoves, ?_⟩
      rw [hlength]
      have hshort' : buffer.length < size := hshort
      omega
  | none =>
      have hshort : buffer.length < 2 := h
      -- both remaining paths read the size and let the packet take the rest
      have hsized (head rest : List UInt8) (hhead : 2 ≤ head.length) (hbytes : buffer ++ buf = head ++ rest)
          (hnone : extractSize payload head = none → put payload ⟨none, buffer⟩ buf = none)
          (hsome : ∀ size, 0 < size → extractSize payload head = some (size, head.drop 2) →
            put payload ⟨none, buffer⟩ buf = some (fill ⟨some size, []⟩ (head.drop 2 ++ rest))) :
          (put payload ⟨none, buffer⟩ buf = none ∧
            ∃ size < 256 ^ 2, Refused payload size ∧ ∃ rest, buffer ++ buf = digits 2 size ++ rest) ∨
          ∃ after, put payload ⟨none, buffer⟩ buf = some after ∧ Moves payload (buffer ++ buf) after ∧
            after.2.length < buf.length := by
        obtain ⟨size, hsize, hdigits, ⟨hextract, hrefused⟩ | ⟨hextract, hsizepos, hle⟩⟩ :=
            extractSize_cases payload hhead
        · refine .inl ⟨hnone hextract, size, hsize, hrefused, head.drop 2 ++ rest, ?_⟩
          rw [hbytes, ← List.append_assoc, ← hdigits]
        · have hempty : ([] : List UInt8).length < size := hsizepos
          obtain ⟨hmoves, hlength⟩ := fill_moves hsizepos hle hsize hempty (head.drop 2 ++ rest)
          refine .inr ⟨_, hsome size hsizepos hextract, ?_, ?_⟩
          · rwa [hbytes, hdigits, List.append_assoc, ← List.append_nil (digits 2 size)]
          · rw [hlength, List.length_append, List.length_drop, List.length_nil]
            have htotal := congrArg List.length hbytes
            rw [List.length_append, List.length_append] at htotal
            omega
      cases buffer with
      | nil =>
          by_cases hlong : 2 ≤ buf.length
          · refine hsized buf [] hlong (by simp) (fun hextract => ?_) fun size hsizepos hextract => ?_
            · simp [put, hbuf, hlong, hextract]
            · rw [List.append_nil, ← fill_fresh hsizepos]
              simp [put, hbuf, hlong, hextract]
          · refine .inr ⟨(⟨none, buf⟩, []), by simp [put, hbuf, hlong], ⟨by simp [pending], .inl ?_⟩, hpos⟩
            show buf.length < 2
            omega
      | cons b buffer =>
          rw [List.length_cons] at hshort
          obtain rfl : buffer = [] := List.length_eq_zero_iff.mp (by omega)
          cases buf with
          | nil => exact absurd rfl hbuf
          | cons c buf =>
              refine hsized [b, c] buf le_rfl rfl (fun hextract => ?_) fun size _ hextract => ?_
              · simp [put, completeSize, hextract]
              · simp [put, completeSize, hextract]

theorem not_ready_of_shape (h : Partial payload s) : s.ready = false := by
  obtain ⟨declaredSize, buffer⟩ := s
  cases declaredSize with
  | none => rfl
  | some size =>
      have hshort : buffer.length < size := h.2.2.2
      simpa [ready] using hshort

theorem ready_of_whole (h : Whole payload s) : s.ready = true ∧ s.get = some (s.buffer, new) := by
  have hsize := h.1
  refine ⟨?_, by rw [get, if_pos hsize]⟩
  rw [ready, hsize]
  simp

theorem pending_of_whole (h : Whole payload s) : s.pending = framing.frame ⟨s.buffer, h.2.2.2⟩ := by
  have hbytes : s.pending = digits 2 s.buffer.length ++ s.buffer := by rw [pending, h.1]
  exact hbytes

end PacketStream

end OpenVPNAdapter.Transport
