namespace Frontend

/-!
# Sinks

Where text is written to.

* `Sink` — anything that takes a text, wholly or in part, and `Sink.writeAll` one text after the
  other;
* `Transcript` — the sink that takes everything;
* `Bounded` — the sink that takes a given number of bytes and nothing after that, in however many
  parts a text is written to it (`writeAll_bounded`).
-/

/-- A sink takes a text and says whether it took all of it. -/
class Sink (τ : Type) where
  write : τ → String → Bool × τ

/-- Writes texts one after the other, up to the first that is not taken whole. -/
def Sink.writeAll {τ : Type} [Sink τ] (sink : τ) : List String → Bool × τ
  | [] => (true, sink)
  | text :: texts =>
    match Sink.write sink text with
    | (true, sink) => writeAll sink texts
    | (false, sink) => (false, sink)

/-! ### Unlimited -/

/-- Everything written so far. -/
structure Transcript where
  text : String := ""
  deriving DecidableEq

instance : Sink Transcript where
  write transcript text := (true, { text := transcript.text ++ text })

@[simp] theorem write_transcript (transcript : Transcript) (text : String) :
    Sink.write transcript text = (true, { text := transcript.text ++ text }) := rfl

/-! ### Limited -/

/-- A sink with a limit, in bytes of UTF-8.  A text may be cut in the middle of a character. -/
structure Bounded where
  /-- The bytes taken so far. -/
  bytes : ByteArray := .empty
  /-- How many more bytes are taken. -/
  room : Nat

instance : Sink Bounded where
  write bounded text :=
    (text.utf8ByteSize ≤ bounded.room,
      { bytes := bounded.bytes ++ text.toUTF8.extract 0 bounded.room
        room := bounded.room - text.utf8ByteSize })

theorem write_bounded (bounded : Bounded) (text : String) :
    Sink.write bounded text =
      (decide (text.utf8ByteSize ≤ bounded.room),
        { bytes := bounded.bytes ++ text.toUTF8.extract 0 bounded.room
          room := bounded.room - text.utf8ByteSize }) := rfl

/-- All bytes of a text are no more than its size. -/
theorem extract_toUTF8_of_le {text : String} {size : Nat} (h : text.utf8ByteSize ≤ size) :
    text.toUTF8.extract 0 size = text.toUTF8 := by
  have := ByteArray.extract_zero_max_size (a := text.toUTF8) (i := size)
  rwa [Nat.max_eq_left (by simpa using h)] at this

/-- The first bytes of two texts are those of the first, and then some of the second. -/
theorem extract_toUTF8_append (first second : String) (size : Nat) :
    (first ++ second).toUTF8.extract 0 size =
      first.toUTF8.extract 0 size ++ second.toUTF8.extract 0 (size - first.utf8ByteSize) := by
  simp [ByteArray.extract_append]

/-- A text within the limit is taken whole. -/
theorem write_bounded_of_le {bounded : Bounded} {text : String}
    (h : text.utf8ByteSize ≤ bounded.room) :
    Sink.write bounded text =
      (true, { bytes := bounded.bytes ++ text.toUTF8
               room := bounded.room - text.utf8ByteSize }) := by
  simp only [write_bounded, h, decide_true, extract_toUTF8_of_le]

/-- Of a text beyond the limit the first bytes are taken, as many as there is room for. -/
theorem write_bounded_of_lt {bounded : Bounded} {text : String}
    (h : bounded.room < text.utf8ByteSize) :
    Sink.write bounded text =
      (false, { bytes := bounded.bytes ++ text.toUTF8.extract 0 bounded.room, room := 0 }) := by
  have hnot : ¬ text.utf8ByteSize ≤ bounded.room := by omega
  have hroom : bounded.room - text.utf8ByteSize = 0 := by omega
  simp only [write_bounded, hnot, decide_false, hroom]

/-- After a part that is taken whole the other part is written. -/
theorem write_append_of_le {bounded : Bounded} {first : String}
    (h : first.utf8ByteSize ≤ bounded.room) (second : String) :
    Sink.write bounded (first ++ second) = Sink.write (Sink.write bounded first).2 second := by
  have hsizes : first.utf8ByteSize + second.utf8ByteSize ≤ bounded.room ↔
      second.utf8ByteSize ≤ bounded.room - first.utf8ByteSize := by omega
  rw [write_bounded_of_le h, write_bounded, write_bounded, extract_toUTF8_append,
    extract_toUTF8_of_le h, String.utf8ByteSize_append, ← ByteArray.append_assoc, Nat.sub_sub]
  simp only [hsizes]

/-- After a part that is cut nothing is taken any more. -/
theorem write_append_of_lt {bounded : Bounded} {first : String}
    (h : bounded.room < first.utf8ByteSize) (second : String) :
    Sink.write bounded (first ++ second) = Sink.write bounded first := by
  have hboth : bounded.room < (first ++ second).utf8ByteSize := by
    rw [String.utf8ByteSize_append]
    omega
  have hnone : bounded.room - first.utf8ByteSize = 0 := by omega
  rw [write_bounded_of_lt h, write_bounded_of_lt hboth, extract_toUTF8_append, hnone]
  simp

/-- **It makes no difference in how many parts a text is written.** -/
theorem writeAll_bounded (bounded : Bounded) (texts : List String) :
    Sink.writeAll bounded texts = Sink.write bounded (String.join texts) := by
  induction texts generalizing bounded with
  | nil =>
    have hempty : (String.join []).utf8ByteSize ≤ bounded.room := Nat.zero_le _
    rw [write_bounded_of_le hempty]
    simp [Sink.writeAll]
  | cons text texts ih =>
    rw [String.join_cons]
    rcases Nat.lt_or_ge bounded.room text.utf8ByteSize with hlt | hle
    · rw [write_append_of_lt hlt, Sink.writeAll, write_bounded_of_lt hlt]
    · rw [write_append_of_le hle, ← ih, Sink.writeAll, write_bounded_of_le hle]

end Frontend
