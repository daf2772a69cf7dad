import Versatile.Py.RoundTrip
import Versatile.Request

/-!
# What the managers write can be read

Whatever a manager sends, an answer to a device or a query to the database, it builds from the
payload of a request, which it has received as JSON, and from texts and numbers of its own. So
what it sends can be received in turn, by whoever has the room that the payload took. A query
stands one level deeper than an answer: its rows are two levels below it.
-/

namespace Versatile

open Py Py.Json

variable {float : String → String × Option Int} {n : Nat}

/-- Each message goes out as bytes that are read as what it was made of, where there is so much
room. -/
def Legible (float : String → String × Option Int) (room : Nat) (msgs : List Message) : Prop :=
  ∀ msg ∈ msgs, receive float room (send msg.payload) = .ok msg.payload

/-! ## What is read from a request -/

theorem readable_field {kvs : List (String × Value)} (h : Readable float n (.dict kvs))
    (k : String) : Readable float (n - 1) (field kvs k) := h.get (get_field kvs k)

/-- The device that speaks. -/
theorem readable_deviceOf {tempID : String} {relay v : Value} (h : Readable float n relay)
    (hdev : deviceOf tempID relay = .ok v) : Readable float n v := by
  unfold deviceOf at hdev
  split at hdev
  · obtain rfl := Except.ok.inj hdev
    exact .str n tempID
  · exact (h.last hdev).mono (Nat.sub_le n 1)

theorem readable_orNULL {v : Value} (h : Readable float n v) : Readable float n (orNULL v) := by
  unfold orNULL
  split
  · exact .str n _
  · exact h

theorem readable_orNone {v : Value} (h : Readable float n v) : Readable float n (orNone v) := by
  unfold orNone
  split
  · exact .str n _
  · exact h

/-! ## One float -/

/-- A reader of floats that knows one of them. -/
def half : String → String × Option Int := fun _ => ("0.5", none)

theorem half_reads : ReprReads half := by
  intro text
  have htext : "0.5".toList = [] ++ ['0'] ++ ['.', '5'] ++ [] := by decide
  refine Or.inr ⟨[], ['0'], ['.', '5'], [], htext, Or.inl rfl, ⟨by simp, ?_, ?_⟩, ?_, Or.inl rfl,
    by simp, rfl⟩
  · intro c hc
    obtain rfl := List.mem_singleton.mp hc
    rfl
  · intro rest heq
    exact (List.cons.inj heq).2.symm
  · refine Or.inr ⟨['5'], rfl, by simp, ?_⟩
    intro c hc
    obtain rfl := List.mem_singleton.mp hc
    rfl

/-- A query with half for its identifier, as it is received. -/
def halfPayload : Value := .dict [("queryID", .float "0.5" none), ("relay", .str "none")]

@[inherit_doc halfPayload]
def halfBytes : List UInt8 := encodeUtf8 "\x7b\"queryID\": 0.5, \"relay\": \"none\"\x7d"

theorem receive_half : receive half 3 halfBytes = .ok halfPayload := by
  rfl

end Versatile
