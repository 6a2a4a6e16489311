import Bindery.Proofs.Java.Filling
import Mathlib.Data.List.DropRight
import Mathlib.Data.List.TakeWhile

/-!
# Wrapping is lossless and greedy

Text reaches the lines in pieces, and between two pieces there may be a space that can become the
end of the line.  The text behind such a space is held back until it is known whether it fits.

What comes out does not show that anything was held back, nor how the text was cut into pieces
(`Wrapper.finish_foldl_step`).  It is what one would write who sees all of the text, and `greedy`
writes it so: a space stays a space exactly if the line so far, the space, and the text up to the
next place for a break fit the limit.  This needs some text behind every space, since a space at the
very end of the text is kept however full its line is.

`wrapping_is_greedy` states besides what follows from the choice and could be checked without it:
the output is the text with some spaces replaced (`Lays`), and no line is too long because a space
in it was kept.
-/

namespace Bindery.Java

/-! ### First and last lines -/

/-- The line that a text begins with. -/
def firstLine (text : List Char) : List Char := text.takeWhile (· ≠ '\n')

/-- The line that a text ends with. -/
def lastLine (text : List Char) : List Char := text.rtakeWhile (· ≠ '\n')

theorem firstLine_of_not_mem {text : List Char} (h : '\n' ∉ text) : firstLine text = text := by
  rw [firstLine, List.takeWhile_eq_self_iff]
  intro c hc
  simpa using ne_of_mem_of_not_mem hc h

theorem firstLine_cons (c : Char) (text : List Char) :
    firstLine (c :: text) = if c = '\n' then [] else c :: firstLine text := by
  by_cases hc : c = '\n' <;> simp [firstLine, hc]

theorem lastLine_concat (text : List Char) (c : Char) :
    lastLine (text ++ [c]) = if c = '\n' then [] else lastLine text ++ [c] := by
  by_cases hc : c = '\n' <;> simp [lastLine, hc]

/-- Behind the end of a line nothing of what stands before it counts. -/
theorem lastLine_append_newline (text : List Char) {line : List Char} (h : '\n' ∉ line) :
    lastLine (text ++ '\n' :: line) = line := by
  induction line using List.reverseRecOn with
  | nil => simp [lastLine_concat]
  | append_singleton line c ih =>
      rw [List.mem_append, not_or, List.mem_singleton] at h
      rw [← List.cons_append, ← List.append_assoc, lastLine_concat, if_neg (Ne.symm h.2), ih h.1]

/-- A character in front of a text of several lines is not on the last of them. -/
theorem lastLine_cons {text : List Char} (h : '\n' ∈ text) (c : Char) :
    lastLine (c :: text) = lastLine text := by
  induction text using List.reverseRecOn with
  | nil => cases h
  | append_singleton text d ih =>
      rw [← List.cons_append, lastLine_concat, lastLine_concat]
      by_cases hd : d = '\n'
      · rw [if_pos hd, if_pos hd]
      · rw [if_neg hd, if_neg hd, ih (by simpa [Ne.symm hd] using h)]

/-- A character of a line counts alike at the end of what stands before it and at the start of
what stands behind it. -/
theorem length_lastLine_concat {c : Char} (hc : c ≠ '\n') (before after : List Char) :
    (lastLine (before ++ [c])).length + (firstLine after).length =
      (lastLine before).length + (firstLine (c :: after)).length := by
  rw [lastLine_concat, if_neg hc, firstLine_cons, if_neg hc, List.length_append,
    List.length_singleton, List.length_cons, Nat.add_assoc, Nat.add_comm 1]

/-! ### Greedy lines -/

/-- **The lines as they are written when all of the text is known.**  A space is kept if the text
up to the next place for a break fits behind it. -/
def greedy (unit : List Char) (limit : Nat) (written : List Char) : List Glyph → List Char
  | [] => written
  | .char c :: rest => greedy unit limit (written ++ [c]) rest
  | .space level :: rest =>
    if (lastLine written).length + 1 + upcoming rest ≤ limit then
      greedy unit limit (written ++ [' ']) rest
    else greedy unit limit (written ++ '\n' :: (List.replicate level unit).flatten) rest

/-- **A text in which every space is kept or becomes the end of a line**, and nothing else is lost
or added. -/
inductive Lays (unit : List Char) : List Glyph → List Char → Prop where
  | nil : Lays unit [] []
  | char (c : Char) {rest : List Glyph} {text : List Char} (h : Lays unit rest text) :
      Lays unit (.char c :: rest) (c :: text)
  | kept (level : Nat) {rest : List Glyph} {text : List Char} (h : Lays unit rest text) :
      Lays unit (.space level :: rest) (' ' :: text)
  | broken (level : Nat) {rest : List Glyph} {text : List Char} (h : Lays unit rest text) :
      Lays unit (.space level :: rest) ('\n' :: ((List.replicate level unit).flatten ++ text))

/-- Whether some text stands behind every space, before the next one and before the end. -/
def isSeparated : List Glyph → Bool
  | [] => true
  | .char _ :: rest => isSeparated rest
  | .space _ :: rest => isText rest && isSeparated rest

section Greedy

variable {unit : List Char} {limit : Nat} {written : List Char}

theorem not_mem_flatten_replicate (h : '\n' ∉ unit) (levels : Nat) :
    '\n' ∉ (List.replicate levels unit).flatten := by
  intro hmem
  obtain ⟨level, hlevel, hmem⟩ := List.mem_flatten.mp hmem
  rw [List.eq_of_mem_replicate hlevel] at hmem
  exact h hmem

/-- **Filling is greedy.**  The column is that of the last line written so far. -/
theorem fill_eq_greedy (hunit : '\n' ∉ unit) {glyphs : List Glyph} (h : isSeparated glyphs = true) :
    written ++ fill unit limit (lastLine written).length none glyphs =
      greedy unit limit written glyphs := by
  induction glyphs generalizing written with
  | nil => simp [fill, greedy]
  | cons glyph rest ih =>
      cases glyph with
      | char c =>
          rw [fill, greedy, ← ih h, lastLine_concat]
          split <;> simp
      | space level =>
          rw [isSeparated, Bool.and_eq_true] at h
          obtain ⟨htext, h⟩ := h
          rw [fill, greedy]
          split
          next hfits =>
            rw [fill_kept hfits, ← ih h, lastLine_concat]
            simp [Pending.kept]
          next hbreaks =>
            have hindent := not_mem_flatten_replicate hunit level
            rw [fill_wrapped htext (by omega), ← ih h, lastLine_append_newline written hindent]
            simp [Pending.wrapped, Pending.wrappedColumn, indentBy]

/-- Greedy lines lose nothing. -/
theorem exists_lays_greedy (unit : List Char) (limit : Nat) (written : List Char)
    (glyphs : List Glyph) :
    ∃ text, greedy unit limit written glyphs = written ++ text ∧ Lays unit glyphs text := by
  induction glyphs generalizing written with
  | nil => exact ⟨[], by simp [greedy], .nil⟩
  | cons glyph rest ih =>
      cases glyph with
      | char c =>
          obtain ⟨text, htext, hlays⟩ := ih (written ++ [c])
          exact ⟨c :: text, by simp [greedy, htext], .char c hlays⟩
      | space level =>
          rw [greedy]
          split
          next =>
            obtain ⟨text, htext, hlays⟩ := ih (written ++ [' '])
            exact ⟨' ' :: text, by simp [htext], .kept level hlays⟩
          next =>
            obtain ⟨text, htext, hlays⟩ :=
              ih (written ++ '\n' :: (List.replicate level unit).flatten)
            exact ⟨_, by simp [htext], .broken level hlays⟩

/-- What comes up fits the line, and with it the line as a whole. -/
theorem exists_greedy_eq_append {glyphs : List Glyph}
    (h : (lastLine written).length + upcoming glyphs ≤ limit) :
    ∃ text, greedy unit limit written glyphs = written ++ text ∧
      (lastLine written).length + (firstLine text).length ≤ limit := by
  induction glyphs generalizing written with
  | nil => exact ⟨[], by simp [greedy], h⟩
  | cons glyph rest ih =>
      cases glyph with
      | char c =>
          rw [upcoming] at h
          split at h
          next hc =>
            obtain ⟨text, htext, -⟩ := exists_lays_greedy unit limit (written ++ [c]) rest
            refine ⟨c :: text, by simp [greedy, htext], ?_⟩
            rw [firstLine_cons, if_pos hc]
            exact h
          next hc =>
            have hline := lastLine_concat written c
            rw [if_neg hc] at hline
            obtain ⟨text, htext, hlength⟩ := @ih (written ++ [c]) (by simp [hline]; omega)
            rw [length_lastLine_concat hc] at hlength
            exact ⟨c :: text, by simp [greedy, htext], hlength⟩
      | space level =>
          rw [greedy]
          split
          next hfits =>
            have hspace : ' ' ≠ '\n' := by decide
            have hline := lastLine_concat written ' '
            rw [if_neg hspace] at hline
            obtain ⟨text, htext, hlength⟩ := @ih (written ++ [' ']) (by simpa [hline] using hfits)
            rw [length_lastLine_concat hspace] at hlength
            exact ⟨' ' :: text, by simp [htext], hlength⟩
          next =>
            obtain ⟨text, htext, -⟩ := exists_lays_greedy unit limit
              (written ++ '\n' :: (List.replicate level unit).flatten) rest
            exact ⟨'\n' :: ((List.replicate level unit).flatten ++ text), by simp [htext], h⟩

/-- A place for a break ends what comes up, so what stands behind it does not count before it. -/
theorem greedy_append_space (before : List Glyph) (level : Nat) (after : List Glyph) :
    greedy unit limit written (before ++ .space level :: after) =
      greedy unit limit (greedy unit limit written before) (.space level :: after) := by
  have hupcoming (glyphs : List Glyph) :
      upcoming (glyphs ++ .space level :: after) = upcoming glyphs := by
    induction glyphs with
    | nil => rfl
    | cons glyph glyphs ih =>
        cases glyph with
        | char c => rw [List.cons_append, upcoming, upcoming, ih]
        | space level => rfl
  generalize Glyph.space level :: after = behind at hupcoming ⊢
  induction before generalizing written with
  | nil => rfl
  | cons glyph before ih =>
      cases glyph with
      | char c => exact ih
      | space level =>
          rw [List.cons_append, greedy, greedy, hupcoming, ih, ih]
          split <;> rfl

end Greedy

/-! ### Text in pieces -/

/-- What is handed over to be written. -/
inductive Call where
  | append (text : String)
  /-- A space that may become the end of a line. -/
  | space (level : Nat)
  deriving DecidableEq, Repr

/-- The glyphs that a call hands over. -/
def Call.glyphs : Call → List Glyph
  | .append text => chars text
  | .space level => [.space level]

/-- The glyphs that calls hand over. -/
def stream (calls : List Call) : List Glyph := calls.flatMap Call.glyphs

/-- What is known between two calls. -/
structure Wrapper where
  written : List Char := []
  /-- The characters of the current line, an undecided space and the text behind it included. -/
  column : Nat := 0
  pending : Option Pending := none
  deriving DecidableEq, Repr

namespace Wrapper

/-- An undecided space is decided, and the text behind it is written. -/
def flush (unit : List Char) (wrap : Bool) (w : Wrapper) : Wrapper :=
  match w.pending with
  | none => w
  | some p =>
    if wrap then ⟨w.written ++ p.wrapped unit, p.wrappedColumn unit, none⟩
    else ⟨w.written ++ p.kept, w.column, none⟩

/-- A text is written as it is. -/
def write (text : List Char) (w : Wrapper) : Wrapper :=
  { w with
    written := w.written ++ text
    column := if '\n' ∈ text then (lastLine text).length else w.column + text.length }

/-- A text is held back behind an undecided space while it fits the line, and otherwise the space is
decided by the text up to the end of its first line. -/
def append (unit : List Char) (limit : Nat) (text : List Char) (w : Wrapper) : Wrapper :=
  match w.pending with
  | none => w.write text
  | some p =>
    if '\n' ∉ text ∧ w.column + text.length ≤ limit then
      { w with column := w.column + text.length, pending := some ⟨p.level, p.held ++ text⟩ }
    else (w.flush unit (decide (limit < w.column + (firstLine text).length))).write text

/-- A space is undecided, and one before it is kept. -/
def space (unit : List Char) (level : Nat) (w : Wrapper) : Wrapper :=
  { w.flush unit false with column := w.column + 1, pending := some ⟨level, []⟩ }

/-- At the end an undecided space is kept. -/
def finish (unit : List Char) (w : Wrapper) : List Char := (w.flush unit false).written

/-- A call. -/
def step (unit : List Char) (limit : Nat) (w : Wrapper) : Call → Wrapper
  | .append text => w.append unit limit text.toList
  | .space level => w.space unit level

/-- What calls write. -/
def run (unit : List Char) (limit : Nat) (calls : List Call) : List Char :=
  (calls.foldl (step unit limit) {}).finish unit

section Steps

variable {unit : List Char} {limit : Nat}

/-- A text that is written as it is takes the column to its last line. -/
theorem fill_write (column : Nat) (text : List Char) (rest : List Glyph) :
    fill unit limit column none (text.map .char ++ rest) =
      text ++ fill unit limit
        (if '\n' ∈ text then (lastLine text).length else column + text.length) none rest := by
  induction text generalizing column with
  | nil => simp
  | cons c text ih =>
      rw [List.map_cons, List.cons_append, fill, ih]
      by_cases hmem : '\n' ∈ text
      · simp [hmem, lastLine_cons hmem]
      · by_cases hc : c = '\n'
        · have hline := lastLine_append_newline [] hmem
          rw [List.nil_append] at hline
          simp [hmem, hc, hline]
        · simp [hmem, hc, Ne.symm hc, Nat.add_assoc, Nat.add_comm 1]

/-- A text that fits is held back, as more may follow it. -/
theorem fill_held {column : Nat} {p : Pending} {text : List Char} (h : '\n' ∉ text)
    (hfits : column + text.length ≤ limit) (rest : List Glyph) :
    fill unit limit column (some p) (text.map .char ++ rest) =
      fill unit limit (column + text.length) (some ⟨p.level, p.held ++ text⟩) rest := by
  induction text generalizing column p with
  | nil => simp
  | cons c text ih =>
      rw [List.mem_cons, not_or] at h
      rw [List.length_cons] at hfits
      rw [List.map_cons, List.cons_append, fill, if_neg (Ne.symm h.1), if_pos (by omega),
        ih h.2 (by omega), List.append_assoc, List.length_cons, Nat.add_assoc, Nat.add_comm 1]
      rfl

/-- What comes up first in a text. -/
theorem upcoming_write (text : List Char) (rest : List Glyph) :
    upcoming (text.map .char ++ rest) =
      (firstLine text).length + if '\n' ∈ text then 0 else upcoming rest := by
  induction text with
  | nil => simp [firstLine]
  | cons c text ih =>
      rw [List.map_cons, List.cons_append, upcoming, firstLine_cons, ih]
      by_cases hc : c = '\n'
      · simp [hc]
      · simp [hc, Ne.symm hc, Nat.add_assoc, Nat.add_comm 1]

theorem isSeparated_write (text : List Char) (rest : List Glyph) :
    isSeparated (text.map .char ++ rest) = isSeparated rest := by
  induction text with
  | nil => rfl
  | cons c text ih => exact ih

/-- Nothing is held back beyond the limit, unless some text follows that will be broken off. -/
def Awaits (w : Wrapper) (limit : Nat) (rest : List Glyph) : Prop :=
  w.pending.isSome = true → w.column ≤ limit ∨ isText rest = true

theorem Awaits.of_none {w : Wrapper} {rest : List Glyph} (h : w.pending = none) :
    w.Awaits limit rest := by
  intro hpending
  rw [h] at hpending
  cases hpending

/-- A text is written as it is where no space is undecided. -/
theorem written_write_append_fill (w : Wrapper) (text : List Char) (rest : List Glyph) :
    (w.write text).written ++ fill unit limit (w.write text).column none rest =
      w.written ++ fill unit limit w.column none (text.map .char ++ rest) := by
  simp [write, fill_write]

/-- An undecided space is decided by what comes up behind it. -/
theorem written_flush_append_fill {w : Wrapper} {glyphs : List Glyph} (h : w.Awaits limit glyphs)
    {wrap : Bool} (hwrap : wrap = decide (limit < w.column + upcoming glyphs)) :
    (w.flush unit wrap).written ++ fill unit limit (w.flush unit wrap).column none glyphs =
      w.written ++ fill unit limit w.column w.pending glyphs := by
  obtain ⟨written, column, pending⟩ := w
  cases pending with
  | none => rfl
  | some p =>
      have hnext : column ≤ limit ∨ isText glyphs = true := h rfl
      by_cases hwraps : limit < column + upcoming glyphs
      · have htext : isText glyphs = true := by
          rcases hnext with hroom | htext
          · exact isText_of_upcoming (Nat.pos_of_lt_add_right (Nat.lt_of_le_of_lt hroom hwraps))
          · exact htext
        rw [fill_wrapped htext hwraps]
        simp [flush, hwrap, hwraps]
      · rw [fill_kept (Nat.le_of_not_lt hwraps)]
        simp [flush, hwrap, hwraps]

/-- No space is undecided behind one that was decided. -/
theorem pending_flush (w : Wrapper) (wrap : Bool) : (w.flush unit wrap).pending = none := by
  obtain ⟨written, column, pending⟩ := w
  cases pending <;> simp [flush, apply_ite]

/-- **A text may be handed over in pieces.** -/
theorem append_spec {w : Wrapper} {text : List Char} {rest : List Glyph}
    (h : w.Awaits limit (text.map .char ++ rest)) :
    (w.append unit limit text).Awaits limit rest ∧
      (w.append unit limit text).written ++ fill unit limit (w.append unit limit text).column
          (w.append unit limit text).pending rest =
        w.written ++ fill unit limit w.column w.pending (text.map .char ++ rest) := by
  obtain ⟨written, column, pending⟩ := w
  cases pending with
  | none => exact ⟨.of_none rfl, written_write_append_fill _ text rest⟩
  | some p =>
      by_cases hfits : '\n' ∉ text ∧ column + text.length ≤ limit
      · have hheld : (⟨written, column, some p⟩ : Wrapper).append unit limit text =
            ⟨written, column + text.length, some ⟨p.level, p.held ++ text⟩⟩ := if_pos hfits
        rw [hheld]
        exact ⟨fun _ => .inl hfits.2, by rw [fill_held hfits.1 hfits.2]⟩
      · have hdecided : (⟨written, column, some p⟩ : Wrapper).append unit limit text =
            ((⟨written, column, some p⟩ : Wrapper).flush unit
              (decide (limit < column + (firstLine text).length))).write text := if_neg hfits
        -- a text that does not fit decides the space, whatever is handed over behind it
        have hwrap : decide (limit < column + (firstLine text).length) =
            decide (limit < column + upcoming (text.map .char ++ rest)) := by
          rw [upcoming_write]
          by_cases hmem : '\n' ∈ text
          · rw [if_pos hmem, Nat.add_zero]
          · have hover : limit < column + text.length :=
              Nat.lt_of_not_le fun hroom => hfits ⟨hmem, hroom⟩
            rw [firstLine_of_not_mem hmem, decide_eq_decide]
            omega
        rw [hdecided]
        refine ⟨.of_none (pending_flush _ _), ?_⟩
        rw [← written_flush_append_fill h hwrap, ← written_write_append_fill, write, pending_flush]

/-- **Handing over text in pieces is filling it at once**, whatever has been handed over before. -/
theorem finish_foldl_step {w : Wrapper} {calls : List Call}
    (hcalls : isSeparated (stream calls) = true)
    (h : w.Awaits limit (stream calls)) :
    (calls.foldl (step unit limit) w).finish unit =
      w.written ++ fill unit limit w.column w.pending (stream calls) := by
  induction calls generalizing w with
  | nil =>
      obtain ⟨written, column, pending⟩ := w
      cases pending <;> simp [finish, flush, stream, fill]
  | cons call calls ih =>
      have hstream : stream (call :: calls) = call.glyphs ++ stream calls := List.flatMap_cons
      rw [hstream] at hcalls h ⊢
      rw [List.foldl_cons]
      cases call with
      | append text =>
          have hrest : isSeparated (stream calls) = true := by
            rw [← isSeparated_write text.toList]
            exact hcalls
          obtain ⟨hawaits, hwritten⟩ := append_spec h
          exact (ih hrest hawaits).trans hwritten
      | space level =>
          rw [Call.glyphs, List.singleton_append, isSeparated, Bool.and_eq_true] at hcalls
          rw [step, ih hcalls.2 fun _ => .inr hcalls.1]
          obtain ⟨written, column, pending⟩ := w
          cases pending <;> simp [space, flush, fill, Call.glyphs]

end Steps

end Wrapper

/-- Whether what comes up behind a space fits the line that is written before it. -/
def Fits (unit : List Char) (limit : Nat) (before after : List Glyph) : Prop :=
  (lastLine (greedy unit limit [] before)).length + 1 + upcoming after ≤ limit

instance (unit : List Char) (limit : Nat) (before after : List Glyph) :
    Decidable (Fits unit limit before after) :=
  inferInstanceAs (Decidable (_ ≤ _))

/-- **A space is kept exactly if what comes up behind it fits**, and then all of its line does. -/
theorem exists_greedy_space (unit : List Char) (limit : Nat) (before : List Glyph) (level : Nat)
    (after : List Glyph) :
    ∃ text, greedy unit limit [] (before ++ .space level :: after) =
        greedy unit limit [] before ++
          (if Fits unit limit before after then [' ']
            else '\n' :: (List.replicate level unit).flatten) ++ text ∧
      (Fits unit limit before after →
        (lastLine (greedy unit limit [] before)).length + 1 + (firstLine text).length ≤ limit) := by
  rw [greedy_append_space, greedy]
  by_cases hfits : Fits unit limit before after
  · have hline := lastLine_concat (greedy unit limit [] before) ' '
    rw [if_neg (by decide)] at hline
    have hbehind : (lastLine (greedy unit limit [] before)).length + 1 + upcoming after ≤ limit :=
      hfits
    have hroom : (lastLine (greedy unit limit [] before ++ [' '])).length + upcoming after ≤
        limit := by
      simpa [hline] using hbehind
    obtain ⟨text, htext, hlength⟩ := @exists_greedy_eq_append unit _ _ _ hroom
    rw [if_pos hbehind, if_pos hfits]
    exact ⟨text, htext, fun _ => by simpa [hline] using hlength⟩
  · obtain ⟨text, htext, -⟩ := exists_lays_greedy unit limit
      (greedy unit limit [] before ++ '\n' :: (List.replicate level unit).flatten) after
    have hbehind :
        ¬ (lastLine (greedy unit limit [] before)).length + 1 + upcoming after ≤ limit := hfits
    rw [if_neg hbehind, if_neg hfits]
    exact ⟨text, htext, fun hfits' => absurd hfits' hfits⟩

/-- **Wrapping is lossless and greedy.**  Let lines be indented by a unit without an end of line, and
let some text be handed over behind every space that may become the end of a line, before the next
one and before the end.  Then handing over the text in pieces writes what filling all of it at once
writes, which is the greedy lines.  Nothing is lost and nothing is added, except that every space
is kept or becomes the end of a line with its indentation behind.  It is kept exactly if the line
so far, the space, and the text up to the next place for a break fit the limit, and then all of its
line does. -/
theorem wrapping_is_greedy (unit : List Char) (limit : Nat) (hunit : '\n' ∉ unit)
    (calls : List Call) (hcalls : isSeparated (stream calls) = true) :
    Wrapper.run unit limit calls = fill unit limit 0 none (stream calls) ∧
      fill unit limit 0 none (stream calls) = greedy unit limit [] (stream calls) ∧
      Lays unit (stream calls) (fill unit limit 0 none (stream calls)) ∧
      ∀ before level after, stream calls = before ++ .space level :: after →
        ∃ text, fill unit limit 0 none (stream calls) = greedy unit limit [] before ++
            (if Fits unit limit before after then [' ']
              else '\n' :: (List.replicate level unit).flatten) ++ text ∧
          (Fits unit limit before after →
            (lastLine (greedy unit limit [] before)).length + 1 + (firstLine text).length ≤
              limit) := by
  have hrun : Wrapper.run unit limit calls = fill unit limit 0 none (stream calls) :=
    Wrapper.finish_foldl_step hcalls fun hpending => absurd hpending (by simp)
  have hgreedy : fill unit limit 0 none (stream calls) = greedy unit limit [] (stream calls) :=
    @fill_eq_greedy unit limit [] hunit _ hcalls
  obtain ⟨output, houtput, hlays⟩ := exists_lays_greedy unit limit [] (stream calls)
  rw [List.nil_append] at houtput
  refine ⟨hrun, hgreedy, ?_, fun before level after hsplit => ?_⟩
  · rw [hgreedy, houtput]
    exact hlays
  · rw [hgreedy, hsplit]
    exact exists_greedy_space unit limit before level after

/-- Two spaces, of which the second is kept and the first is not, with text in several pieces. -/
def twoSpaces : List Call :=
  [.append "abcdefghij,", .space 2, .append "klm", .append "", .append "no,", .space 3,
    .append "pqr", .append ";\nst"]

theorem wrapping_is_greedy_twoSpaces :
    '\n' ∉ indentUnit ∧ isSeparated (stream twoSpaces) = true ∧
      Wrapper.run indentUnit 15 twoSpaces = "abcdefghij,\n    klmno, pqr;\nst".toList ∧
      fill indentUnit 15 0 none (stream twoSpaces) =
        "abcdefghij,\n    klmno, pqr;\nst".toList := by
  have hunit : '\n' ∉ indentUnit := by decide
  have hcalls : isSeparated (stream twoSpaces) = true := by decide +kernel
  obtain ⟨hrun, hgreedy, -, -⟩ := wrapping_is_greedy indentUnit 15 hunit twoSpaces hcalls
  have hlines : greedy indentUnit 15 [] (stream twoSpaces) =
      "abcdefghij,\n    klmno, pqr;\nst".toList := by
    decide +kernel
  exact ⟨hunit, hcalls, hrun.trans (hgreedy.trans hlines), hgreedy.trans hlines⟩

end Bindery.Java
