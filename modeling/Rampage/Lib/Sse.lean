/-
Server-sent events, whose lines end with a line feed: a field and its value a line, an empty line after an event. A reader
takes the bytes as they come; where they are cut makes no difference (`Sse.feed_append`), what it has read of the first bytes
is the beginning of what it reads of all (`Sse.read_prefix`), and it reads back the events that were written
(`Sse.read_encode`).
-/
import Mathlib.Data.List.Basic

namespace Sse

/-- An event as the client's reader gives it. -/
structure Event where
  /-- The type of the event, empty for a plain message. -/
  event : List UInt8
  data : List UInt8
deriving DecidableEq

/-- What a reader holds: the line it is in, and the fields of the event it is in. -/
structure Reader where
  line : List UInt8
  event : List UInt8
  data : List (List UInt8)
deriving DecidableEq

/-- Nothing has been read. -/
def Reader.start : Reader := ⟨[], [], []⟩

/-- "data" and "event". -/
def dataName : List UInt8 := [100, 97, 116, 97]

/-- The field `event`, in bytes. -/
def eventName : List UInt8 := [101, 118, 101, 110, 116]

/-- A field's name and, after the first colon and a space that may follow it, its value. -/
def field (line : List UInt8) : List UInt8 × List UInt8 :=
  let value := (line.dropWhile (· != 58)).tail
  (line.takeWhile (· != 58), if value.head? = some 32 then value.tail else value)

/-- The end of a line: a field is noted, an empty line ends an event that has data. -/
def Reader.endLine (r : Reader) : Reader × List Event :=
  if r.line = [] then (.start, if r.data = [] then [] else [⟨r.event, List.intercalate [10] r.data⟩])
  else if (field r.line).1 = dataName then ({ r with line := [], data := r.data ++ [(field r.line).2] }, [])
  else if (field r.line).1 = eventName then ({ r with line := [], event := (field r.line).2 }, [])
  else ({ r with line := [] }, [])

/-- What a reader makes of bytes. -/
def feed : Reader → List UInt8 → Reader × List Event
  | r, [] => (r, [])
  | r, b :: bs =>
    if b = 10 then ((feed r.endLine.1 bs).1, r.endLine.2 ++ (feed r.endLine.1 bs).2)
    else feed { r with line := r.line ++ [b] } bs

/-- The events of a stream from its start. -/
def read (bytes : List UInt8) : List Event := (feed .start bytes).2

/-! ## Cutting a stream -/

/-- The reader does not see where the bytes are cut. -/
theorem feed_append : ∀ (bs cs : List UInt8) (r : Reader),
    feed r (bs ++ cs) = ((feed (feed r bs).1 cs).1, (feed r bs).2 ++ (feed (feed r bs).1 cs).2)
  | [], cs, r => rfl
  | b :: bs, cs, r => by
    rw [List.cons_append, feed, feed]
    split
    · rw [feed_append bs cs, List.append_assoc]
    · exact feed_append bs cs _

theorem read_prefix {bs cs : List UInt8} (h : bs <+: cs) : read bs <+: read cs := by
  obtain ⟨rest, rfl⟩ := h
  unfold read
  rw [feed_append]
  exact List.prefix_append ..

/-- A line is read at once. -/
theorem feed_line : ∀ {line : List UInt8} {r : Reader}, (10 : UInt8) ∉ line → ∀ rest : List UInt8,
    feed r (line ++ 10 :: rest) =
      ((feed { r with line := r.line ++ line }.endLine.1 rest).1,
        { r with line := r.line ++ line }.endLine.2 ++ (feed { r with line := r.line ++ line }.endLine.1 rest).2)
  | [], r, _, rest => by
    rw [List.nil_append, feed, if_pos rfl, List.append_nil]
  | b :: line, r, hno, rest => by
    have hb : b ≠ 10 := fun hb => hno (hb ▸ List.mem_cons_self ..)
    have hrest : (10 : UInt8) ∉ line := fun hmem => hno (List.mem_cons_of_mem _ hmem)
    rw [List.cons_append, feed, if_neg hb, feed_line hrest, List.append_assoc, List.singleton_append]

/-- Bytes without a line feed complete no event. -/
theorem feed_of_notMem : ∀ {bytes : List UInt8} {r : Reader}, (10 : UInt8) ∉ bytes → (feed r bytes).2 = []
  | [], _, _ => rfl
  | b :: bytes, r, hno => by
    have hb : b ≠ 10 := fun hb => hno (hb ▸ List.mem_cons_self ..)
    rw [feed, if_neg hb]
    exact feed_of_notMem fun hmem => hno (List.mem_cons_of_mem _ hmem)

/-! ## Writing events -/

/-- The line of a field. -/
def fieldLine (name value : List UInt8) : List UInt8 := name ++ 58 :: 32 :: value

/-- The lines of an event. -/
def Event.encode (e : Event) : List UInt8 :=
  (if e.event = [] then [] else fieldLine eventName e.event ++ [10]) ++ (fieldLine dataName e.data ++ [10, 10])

/-- An event of two lines at most: neither its type nor its data has a line feed. -/
structure Event.Plain (e : Event) : Prop where
  event : (10 : UInt8) ∉ e.event
  data : (10 : UInt8) ∉ e.data

theorem field_fieldLine {name : List UInt8} (hname : (58 : UInt8) ∉ name) (value : List UInt8) :
    field (fieldLine name value) = (name, value) := by
  have hall : ∀ b ∈ name, (b != 58) = true := fun b hb => bne_iff_ne.2 fun h => hname (h ▸ hb)
  have htake : (fieldLine name value).takeWhile (· != 58) = name := by
    unfold fieldLine
    rw [List.takeWhile_append_of_pos hall, List.takeWhile_cons_of_neg (by decide), List.append_nil]
  have hdrop : (fieldLine name value).dropWhile (· != 58) = 58 :: 32 :: value := by
    unfold fieldLine
    rw [List.dropWhile_append_of_pos hall, List.dropWhile_cons_of_neg (by decide)]
  unfold field
  rw [htake, hdrop]
  rfl

theorem notMem_fieldLine {name value : List UInt8} (hname : (10 : UInt8) ∉ name) (hvalue : (10 : UInt8) ∉ value) :
    (10 : UInt8) ∉ fieldLine name value := by
  simp [fieldLine, hname, hvalue]

theorem fieldLine_ne_nil (name value : List UInt8) : fieldLine name value ≠ [] := by simp [fieldLine]

theorem endLine_data (event value : List UInt8) :
    (Reader.mk (fieldLine dataName value) event []).endLine = (⟨[], event, [value]⟩, []) := by
  unfold Reader.endLine
  rw [if_neg (fieldLine_ne_nil _ _), field_fieldLine (by decide), if_pos rfl]
  rfl

theorem endLine_event (value : List UInt8) :
    (Reader.mk (fieldLine eventName value) [] []).endLine = (⟨[], value, []⟩, []) := by
  unfold Reader.endLine
  have hne : eventName ≠ dataName := by decide
  rw [if_neg (fieldLine_ne_nil _ _), field_fieldLine (by decide), if_neg hne, if_pos rfl]

/-- An event that was written is read, and the reader is where it began. -/
theorem feed_encode {e : Event} (h : e.Plain) (rest : List UInt8) :
    feed .start (e.encode ++ rest) = ((feed .start rest).1, e :: (feed .start rest).2) := by
  have hdata : ∀ event : List UInt8, feed ⟨[], event, []⟩ (fieldLine dataName e.data ++ [10, 10] ++ rest) =
      ((feed .start rest).1, ⟨event, e.data⟩ :: (feed .start rest).2) := by
    intro event
    have hline := @feed_line (fieldLine dataName e.data) ⟨[], event, []⟩ (notMem_fieldLine (by decide) h.data) (10 :: rest)
    rw [List.append_assoc, List.cons_append, List.cons_append, List.nil_append, hline, List.nil_append, endLine_data, feed,
      if_pos rfl]
    have hblank : (Reader.mk [] event [e.data]).endLine = (.start, [⟨event, e.data⟩]) := by
      simp [Reader.endLine, List.intercalate]
    rw [hblank]
    rfl
  unfold Event.encode
  obtain ⟨event, data⟩ := e
  by_cases hevent : event = []
  · subst hevent
    rw [if_pos rfl, List.nil_append]
    exact hdata []
  · have hline := @feed_line (fieldLine eventName event) .start (notMem_fieldLine (by decide) h.event)
      (fieldLine dataName data ++ [10, 10] ++ rest)
    have hstart : Reader.start = ⟨[], [], []⟩ := rfl
    rw [if_neg hevent, List.append_assoc, List.append_assoc, List.singleton_append, hline, hstart, List.nil_append,
      endLine_event, ← hstart, hdata event]
    rfl

/-- **Round trip.** The events that were written are read. -/
theorem read_encode : ∀ {es : List Event}, (∀ e ∈ es, e.Plain) → read (es.flatMap Event.encode) = es
  | [], _ => rfl
  | e :: es, h => by
    have hrest := read_encode fun e he => h e (List.mem_cons_of_mem _ he)
    unfold read at hrest ⊢
    rw [List.flatMap_cons, feed_encode (h e (List.mem_cons_self ..)), hrest]

/-- Of a stream that is cut anywhere a beginning of the events is read. -/
theorem read_cut {es : List Event} (h : ∀ e ∈ es, e.Plain) {bytes : List UInt8} (hcut : bytes <+: es.flatMap Event.encode) :
    read bytes <+: es := by
  have hread := read_prefix hcut
  rwa [read_encode h] at hread

end Sse
