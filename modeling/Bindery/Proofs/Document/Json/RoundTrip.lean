import Bindery.Document.Json.Printer
import Bindery.Document.Json.Reader
import Mathlib.Data.List.Basic

/-!
# JSON is read back

A document without numbers that is written with one member or item to a line is read back as it was.
The proof has a step for each half of reading: the text gives back the tokens that it was written
from (`tokens_pretty`), and the tokens give back the document (`assemble_tokensOf`).

There are two reasons to exclude documents (`Document.Fits`).  Numbers are left out because nothing
that is written here has any.  Nesting is bounded because the reader gives up on a document that is
nested too deeply, so the bound cannot be dropped.
-/

namespace Bindery

/-! ### Documents that fit -/

namespace Document

mutual

/-- Whether a document consists of texts, truth values and empty values, in containers that are
nested at most so deep. -/
def Fits : Nat → Document → Prop
  | _, .null | _, .bool _ | _, .str _ => True
  | room + 1, .list items => AllFit room items
  | room + 1, .record members => MembersFit room members
  | _, _ => False

/-- Whether all items fit. -/
def AllFit : Nat → List Document → Prop
  | _, [] => True
  | room, item :: items => Fits room item ∧ AllFit room items

/-- Whether the values of all members fit. -/
def MembersFit : Nat → List (String × Document) → Prop
  | _, [] => True
  | room, (_, value) :: members => Fits room value ∧ MembersFit room members

end

theorem allFit_iff {room : Nat} {items : List Document} :
    AllFit room items ↔ ∀ item ∈ items, item.Fits room := by
  induction items with
  | nil => simp [AllFit]
  | cons item items ih => simp [AllFit, ih]

theorem membersFit_iff {room : Nat} {members : List (String × Document)} :
    MembersFit room members ↔ ∀ member ∈ members, member.2.Fits room := by
  induction members with
  | nil => simp [MembersFit]
  | cons member members ih => simp [MembersFit, ih]

mutual

/-- What fits in some room fits in more. -/
theorem Fits.mono : (document : Document) → {room more : Nat} → document.Fits room → room ≤ more →
    document.Fits more
  | .null, _, _, _, _ | .bool _, _, _, _, _ | .str _, _, _, _, _ => by simp [Fits]
  | .list items, _ + 1, _ + 1, h, hle => AllFit.mono items h (Nat.le_of_succ_le_succ hle)
  | .record members, _ + 1, _ + 1, h, hle => MembersFit.mono members h (Nat.le_of_succ_le_succ hle)

theorem AllFit.mono :
    (items : List Document) → {room more : Nat} → AllFit room items → room ≤ more →
    AllFit more items
  | [], _, _, _, _ => trivial
  | item :: items, _, _, h, hle => ⟨Fits.mono item h.1 hle, AllFit.mono items h.2 hle⟩

theorem MembersFit.mono : (members : List (String × Document)) → {room more : Nat} →
    MembersFit room members → room ≤ more → MembersFit more members
  | [], _, _, _, _ => trivial
  | (_, value) :: members, _, _, h, hle =>
      ⟨Fits.mono value h.1 hle, MembersFit.mono members h.2 hle⟩

end

mutual

/-- What fits has a value in every part. -/
theorem Fits.isUsable : (document : Document) → {room : Nat} → document.Fits room →
    document.isUsable = true
  | .null, _, _ | .bool _, _, _ | .str _, _, _ => rfl
  | .list items, _ + 1, h => AllFit.isUsable items h
  | .record members, _ + 1, h => MembersFit.isUsable members h

theorem AllFit.isUsable : (items : List Document) → {room : Nat} → AllFit room items →
    isUsableList items = true
  | [], _, _ => rfl
  | item :: items, _, h => by
      rw [isUsableList, Fits.isUsable item h.1, AllFit.isUsable items h.2]
      rfl

theorem MembersFit.isUsable : (members : List (String × Document)) → {room : Nat} →
    MembersFit room members → isUsableMembers members = true
  | [], _, _ => rfl
  | (_, value) :: members, _, h => by
      rw [isUsableMembers, Fits.isUsable value h.1, MembersFit.isUsable members h.2]
      rfl

end

end Document

namespace Json

open Text

/-! ### Texts -/

theorem hexDigit?_lowerHexDigit : ∀ d < 16, hexDigit? (lowerHexDigit d) = some d := by decide

/-- Code units with one more in front of them. -/
def withUnit (unit : Nat) (found : List Nat × List Char) : List Nat × List Char :=
  (unit :: found.1, found.2)

theorem readUnits?_letter {letter meant : Char} (hletter : letter ≠ 'u')
    (h : escaped? letter = some meant) (rest : List Char) :
    readUnits? ('\\' :: letter :: rest) = (readUnits? rest).map (withUnit meant.toNat) := by
  rw [readUnits?.eq_4 _ _ (fun _ _ _ _ _ hu _ => hletter hu), h]
  cases readUnits? rest <;> rfl

theorem readUnits?_unit {a b c d : Char} {unit : Nat} (h : hexUnit? a b c d = some unit)
    (rest : List Char) :
    readUnits? ('\\' :: 'u' :: a :: b :: c :: d :: rest) =
      (readUnits? rest).map (withUnit unit) := by
  rw [readUnits?, h]
  cases readUnits? rest <;> rfl

theorem readUnits?_plain {c : Char} (hquote : c ≠ '"') (hslash : c ≠ '\\') (hc : ¬ c.toNat < 0x20)
    (rest : List Char) : readUnits? (c :: rest) = (readUnits? rest).map (withUnit c.toNat) := by
  rw [readUnits?.eq_5 _ _ hquote (fun _ _ _ _ _ hc _ => hslash hc) fun _ _ hc _ => hslash hc,
    if_neg (by simp [hslash, hc])]
  cases readUnits? rest <;> rfl

/-- A character is read back from the way it stands inside quotation marks. -/
theorem readUnits?_escape (c : Char) (rest : List Char) :
    readUnits? (escape c ++ rest) = (readUnits? rest).map (withUnit c.toNat) := by
  unfold escape
  split
  · exact readUnits?_letter (by decide) rfl rest
  · exact readUnits?_letter (by decide) rfl rest
  · exact readUnits?_letter (by decide) rfl rest
  · exact readUnits?_letter (by decide) rfl rest
  · exact readUnits?_letter (by decide) rfl rest
  · exact readUnits?_letter (by decide) rfl rest
  · exact readUnits?_letter (by decide) rfl rest
  · next hquote hslash _ _ _ _ _ =>
      split
      · next hc =>
          -- characters below a blank have two digits, behind two zeros
          refine readUnits?_unit ?_ rest
          rw [hexUnit?, hexDigit?_lowerHexDigit _ (by omega), hexDigit?_lowerHexDigit _ (by omega)]
          have hzero : hexDigit? '0' = some 0 := by decide
          simp only [hzero, Option.bind_eq_bind, Option.bind_some, Option.pure_def,
            Option.some.injEq]
          omega
      · next hc => exact readUnits?_plain hquote hslash hc rest

/-- Quotation marks are read up to the closing one. -/
theorem readUnits?_flatMap_escape (text rest : List Char) :
    readUnits? (text.flatMap escape ++ '"' :: rest) = some (text.map Char.toNat, rest) := by
  induction text with
  | nil => rfl
  | cons c text ih =>
      rw [List.flatMap_cons, List.append_assoc, readUnits?_escape, ih]
      rfl

/-- Characters are no halves of surrogate pairs. -/
theorem not_isSurrogate (c : Char) :
    isHighSurrogate c.toNat = false ∧ isLowSurrogate c.toNat = false := by
  have hvalid : c.toNat < 0xD800 ∨ 0xDFFF < c.toNat := by
    rcases c.valid with h | h
    · exact .inl h
    · exact .inr h.1
  simp only [isHighSurrogate, isLowSurrogate, Bool.and_eq_false_iff, decide_eq_false_iff_not]
  omega

/-- The code units of characters stand for the characters. -/
theorem joinUnits?_map_toNat (text : List Char) : joinUnits? (text.map Char.toNat) = some text := by
  induction text with
  | nil => rfl
  | cons c text ih =>
      obtain ⟨hhigh, hlow⟩ := not_isSurrogate c
      cases text with
      | nil =>
          rw [List.map_singleton, joinUnits?, hhigh, hlow, Char.ofNat_toNat]
          rfl
      | cons d text =>
          rw [List.map_cons, List.map_cons, joinUnits?, hhigh, hlow]
          rw [List.map_cons] at ih
          simp only [Bool.false_eq_true, if_false]
          rw [ih, Char.ofNat_toNat]
          rfl

/-! ### Tokens -/

theorem tokens_space {c : Char} (h : isSpace c = true) (rest : List Char) :
    tokens (c :: rest) = tokens rest := by
  rw [tokens, if_pos h]

theorem tokens_of_readToken? {c : Char} {rest behind : List Char} {token : Token}
    (hspace : isSpace c = false) (h : readToken? (c :: rest) = some (token, behind)) :
    tokens (c :: rest) = token :: tokens behind := by
  rw [tokens, if_neg (by simp [hspace])]
  split
  · next hnone => rw [hnone] at h; cases h
  · next hsome =>
      rw [hsome] at h
      cases h
      rfl

theorem tokens_mark {c : Char} {token : Token} (hspace : isSpace c = false)
    (h : mark? c = some token) (rest : List Char) :
    tokens (c :: rest) = token :: tokens rest := by
  refine tokens_of_readToken? hspace ?_
  rw [readToken?, h]

/-- Blanks at the start of a line are passed over. -/
theorem tokens_newline (level : Nat) (rest : List Char) :
    tokens (newline level ++ rest) = tokens rest := by
  rw [newline, List.cons_append, tokens_space (by decide)]
  -- on the number of blanks
  induction 2 * level with
  | zero => rfl
  | succ n ih => rw [List.replicate_succ, List.cons_append, tokens_space (by decide), ih]

theorem tokens_quoted (text : String) (rest : List Char) :
    tokens (quoted text ++ rest) = .text (some text) :: tokens rest := by
  rw [quoted, List.append_assoc, List.append_assoc, List.singleton_append, List.singleton_append]
  refine tokens_of_readToken? (by decide) ?_
  have hmark : mark? '"' = none := by decide
  rw [readToken?, hmark, if_pos rfl, readUnits?_flatMap_escape]
  simp only [Option.map_some, joinUnits?_map_toNat, String.ofList_toList]

theorem tokens_null (rest : List Char) :
    tokens ("null".toList ++ rest) = .value .null :: tokens rest :=
  tokens_of_readToken? (by decide) rfl

theorem tokens_bool (b : Bool) (rest : List Char) :
    tokens ((toString b).toList ++ rest) = .value (.bool b) :: tokens rest := by
  cases b <;> exact tokens_of_readToken? (by decide) rfl

mutual

/-- The tokens that a document is written as. -/
def tokensOf : Document → List Token
  | .list items => [.openList] ++ itemTokens items ++ [.closeList]
  | .record members => [.openRecord] ++ memberTokens members ++ [.closeRecord]
  | .str s => [.text (some s)]
  | other => [.value other]

/-- The tokens that items are written as, with commas between them. -/
def itemTokens : List Document → List Token
  | [] => []
  | [item] => tokensOf item
  | item :: items => tokensOf item ++ [.comma] ++ itemTokens items

/-- The tokens that members are written as, with commas between them. -/
def memberTokens : List (String × Document) → List Token
  | [] => []
  | [(key, value)] => [.text (some key), .colon] ++ tokensOf value
  | (key, value) :: members =>
    [.text (some key), .colon] ++ tokensOf value ++ [.comma] ++ memberTokens members

end

theorem itemTokens_cons_cons (item next : Document) (items : List Document) :
    itemTokens (item :: next :: items) = tokensOf item ++ .comma :: itemTokens (next :: items) := by
  simp [itemTokens]

theorem memberTokens_cons_cons (key : String) (value : Document) (next : String × Document)
    (members : List (String × Document)) :
    memberTokens ((key, value) :: next :: members) =
      .text (some key) :: .colon ::
      (tokensOf value ++ .comma :: memberTokens (next :: members)) := by
  simp [memberTokens]

theorem prettyItems_cons_cons (level : Nat) (item next : Document) (items : List Document) :
    prettyItems level (item :: next :: items) =
      newline level ++ (pretty level item ++ ',' :: prettyItems level (next :: items)) := by
  simp [prettyItems]

theorem prettyMembers_cons_cons (level : Nat) (key : String) (value : Document)
    (next : String × Document) (members : List (String × Document)) :
    prettyMembers level ((key, value) :: next :: members) =
      newline level ++ (quoted key ++ ':' :: ' ' :: (pretty level value ++
        ',' :: prettyMembers level (next :: members))) := by
  simp [prettyMembers]

mutual

/-- **The text of a document has the tokens of the document.** -/
theorem tokens_pretty : (document : Document) → {room : Nat} → document.Fits room → (level : Nat) →
    (rest : List Char) → tokens (pretty level document ++ rest) = tokensOf document ++ tokens rest
  | .null, _, _, _, rest => tokens_null rest
  | .bool b, _, _, _, rest => tokens_bool b rest
  | .str s, _, _, _, rest => tokens_quoted s rest
  | .list [], _, _, _, rest => by
      rw [pretty, List.cons_append, tokens_mark (by decide) rfl, List.cons_append,
        tokens_mark (by decide) rfl]
      rfl
  | .list (item :: items), room + 1, h, level, rest => by
      have hitems := tokens_prettyItems (item :: items) h (level + 1) (newline level ++ ']' :: rest)
      rw [tokens_newline, tokens_mark (by decide) rfl] at hitems
      show tokens (_ ++ _ ++ _ ++ _ ++ rest) = _
      rw [List.append_assoc, List.append_assoc, List.append_assoc, List.singleton_append,
        List.singleton_append, tokens_mark (by decide) rfl, hitems, tokensOf]
      simp
  | .record [], _, _, _, rest => by
      rw [pretty, List.cons_append, tokens_mark (by decide) rfl, List.cons_append,
        tokens_mark (by decide) rfl]
      rfl
  | .record (member :: members), room + 1, h, level, rest => by
      have hmembers := tokens_prettyMembers (member :: members) h (level + 1)
        (newline level ++ '\x7d' :: rest)
      rw [tokens_newline, tokens_mark (by decide) rfl] at hmembers
      show tokens (_ ++ _ ++ _ ++ _ ++ rest) = _
      rw [List.append_assoc, List.append_assoc, List.append_assoc, List.singleton_append,
        List.singleton_append, tokens_mark (by decide) rfl, hmembers, tokensOf]
      simp

theorem tokens_prettyItems : (items : List Document) → {room : Nat} → Document.AllFit room items →
    (level : Nat) → (rest : List Char) →
    tokens (prettyItems level items ++ rest) = itemTokens items ++ tokens rest
  | [], _, _, _, _ => rfl
  | [item], _, h, level, rest => by
      rw [prettyItems, List.append_assoc, tokens_newline, tokens_pretty item h.1, itemTokens]
  | item :: next :: items, _, h, level, rest => by
      rw [prettyItems_cons_cons, List.append_assoc, List.append_assoc, tokens_newline,
        tokens_pretty item h.1, List.cons_append, tokens_mark (by decide) rfl,
        tokens_prettyItems (next :: items) h.2, itemTokens_cons_cons, List.append_assoc,
        List.cons_append]

theorem tokens_prettyMembers : (members : List (String × Document)) → {room : Nat} →
    Document.MembersFit room members → (level : Nat) → (rest : List Char) →
    tokens (prettyMembers level members ++ rest) = memberTokens members ++ tokens rest
  | [], _, _, _, _ => rfl
  | [(key, value)], _, h, level, rest => by
      rw [prettyMembers, List.append_assoc, List.append_assoc, List.append_assoc, tokens_newline,
        tokens_quoted, List.cons_append, List.cons_append, List.nil_append,
        tokens_mark (by decide) rfl, tokens_space (by decide), tokens_pretty value h.1]
      rfl
  | (key, value) :: next :: members, _, h, level, rest => by
      rw [prettyMembers_cons_cons, List.append_assoc, List.append_assoc, tokens_newline,
        tokens_quoted, List.cons_append, List.cons_append, tokens_mark (by decide) rfl,
        tokens_space (by decide), List.append_assoc, tokens_pretty value h.1, List.cons_append,
        tokens_mark (by decide) rfl, tokens_prettyMembers (next :: members) h.2,
        memberTokens_cons_cons]
      simp

end

/-! ### Assembling -/

/-- What follows once a value has been read inside frames. -/
def resume : List Frame → Document → List Token → Document × Option (List Token)
  | [], document, rest => (document, some rest)
  | frame :: frames, document, rest => assemble frames (frame.supply document) rest

theorem assemble_of_supply {frames outer : List Frame} {stage : Stage} {token : Token}
    {document : Document} (h : step frames stage token = supply document outer)
    (rest : List Token) :
    assemble frames stage (token :: rest) = resume outer document rest := by
  rw [assemble, h]
  cases outer <;> rfl

theorem assemble_of_next {frames inner : List Frame} {stage next : Stage} {token : Token}
    (h : step frames stage token = .next inner next) (rest : List Token) :
    assemble frames stage (token :: rest) = assemble inner next rest := by
  rw [assemble, h]

/-- A list may begin with any value. -/
theorem assemble_firstItem (frames : List Frame) (item : Document) (items : List Document)
    (rest : List Token) :
    assemble frames .firstItem (itemTokens (item :: items) ++ rest) =
      assemble frames .value (itemTokens (item :: items) ++ rest) := by
  have hfirst (rest : List Token) : assemble frames .firstItem (tokensOf item ++ rest) =
      assemble frames .value (tokensOf item ++ rest) := by
    cases item <;> rfl
  cases items with
  | nil => exact hfirst rest
  | cons next items =>
      rw [itemTokens_cons_cons, List.append_assoc]
      exact hfirst _

/-- A record may begin with any name. -/
theorem assemble_firstKey (frames : List Frame) (key : String) (value : Document)
    (members : List (String × Document)) (rest : List Token) :
    assemble frames .firstKey (memberTokens ((key, value) :: members) ++ rest) =
      assemble frames (.key #[] true) (memberTokens ((key, value) :: members) ++ rest) := by
  cases members <;> rfl

mutual

/-- **The tokens of a document are assembled to the document**, if there is room for it in the
frames. -/
theorem assemble_tokensOf : (document : Document) → {room : Nat} → document.Fits room →
    (frames : List Frame) → frames.length + room ≤ depthLimit → (rest : List Token) →
    assemble frames .value (tokensOf document ++ rest) = resume frames document rest
  | .null, _, _, _, _, rest => assemble_of_supply rfl rest
  | .bool _, _, _, _, _, rest => assemble_of_supply rfl rest
  | .str _, _, _, _, _, rest => assemble_of_supply rfl rest
  | .list [], room + 1, _, frames, hroom, rest => by
      -- a list without items needs room for itself, although nothing is nested in it
      have hclosed : closed frames (.list []) = .list [] := if_pos (by omega)
      show assemble frames .value (.openList :: .closeList :: rest) = _
      rw [assemble_of_next rfl]
      refine assemble_of_supply ?_ rest
      rw [step, hclosed]
  | .list (item :: items), room + 1, h, frames, hroom, rest => by
      rw [tokensOf, List.append_assoc, List.append_assoc, List.singleton_append,
        List.singleton_append, assemble_of_next rfl, assemble_firstItem,
        assemble_items (item :: items) (by simp) h #[] frames (by omega)]
      rfl
  | .record [], room + 1, _, frames, hroom, rest => by
      have hclosed : closed frames (.record []) = .record [] := if_pos (by omega)
      show assemble frames .value (.openRecord :: .closeRecord :: rest) = _
      rw [assemble_of_next rfl]
      refine assemble_of_supply ?_ rest
      rw [step, hclosed]
  | .record ((key, value) :: members), room + 1, h, frames, hroom, rest => by
      rw [tokensOf, List.append_assoc, List.append_assoc, List.singleton_append,
        List.singleton_append, assemble_of_next rfl, assemble_firstKey,
        assemble_members ((key, value) :: members) (by simp) h #[] frames (by omega)]
      rfl

/-- The items of a list are assembled behind those that were read before. -/
theorem assemble_items : (items : List Document) → items ≠ [] → {room : Nat} →
    Document.AllFit room items → (before : Array Document) → (frames : List Frame) →
    frames.length + room < depthLimit → (rest : List Token) →
    assemble (.list before :: frames) .value (itemTokens items ++ .closeList :: rest) =
      resume frames (.list (before.toList ++ items)) rest
  | [], hne, _, _, _, _, _, _ => absurd rfl hne
  | [item], _, room, h, before, frames, hroom, rest => by
      have hclosed :
          closed frames (.list (before.push item).toList) = .list (before.push item).toList :=
        if_pos (by omega)
      rw [itemTokens, assemble_tokensOf item h.1 _ (by rw [List.length_cons]; omega), resume,
        Frame.supply, ← Array.toList_push]
      refine assemble_of_supply ?_ rest
      rw [step, hclosed]
  | item :: next :: items, _, room, h, before, frames, hroom, rest => by
      rw [itemTokens_cons_cons, List.append_assoc,
        assemble_tokensOf item h.1 _ (by rw [List.length_cons]; omega), resume, Frame.supply,
        List.cons_append, assemble_of_next rfl,
        assemble_items (next :: items) (by simp) h.2 _ frames hroom, Array.toList_push,
        List.append_assoc]
      rfl

/-- The members of a record are assembled behind those that were read before. -/
theorem assemble_members : (members : List (String × Document)) → members ≠ [] → {room : Nat} →
    Document.MembersFit room members → (before : Array (String × Document)) →
    (frames : List Frame) →
    frames.length + room < depthLimit → (rest : List Token) →
    assemble frames (.key before true) (memberTokens members ++ .closeRecord :: rest) =
      resume frames (.record (before.toList ++ members)) rest
  | [], hne, _, _, _, _, _, _ => absurd rfl hne
  | [(key, value)], _, room, h, before, frames, hroom, rest => by
      have hclosed : closed frames (.record (before.push (key, value)).toList) =
          .record (before.push (key, value)).toList := if_pos (by omega)
      rw [memberTokens, List.append_assoc, List.cons_append, List.singleton_append,
        assemble_of_next rfl, assemble_of_next rfl, if_pos rfl,
        assemble_tokensOf value h.1 _ (by rw [List.length_cons]; omega), resume, Frame.supply,
        ← Array.toList_push]
      refine assemble_of_supply ?_ rest
      rw [step, closedRecord, if_pos rfl, hclosed]
  | (key, value) :: next :: members, _, room, h, before, frames, hroom, rest => by
      rw [memberTokens_cons_cons, List.cons_append, List.cons_append, List.append_assoc,
        assemble_of_next rfl, assemble_of_next rfl, if_pos rfl,
        assemble_tokensOf value h.1 _ (by rw [List.length_cons]; omega), resume, Frame.supply,
        List.cons_append, assemble_of_next rfl,
        assemble_members (next :: members) (by simp) h.2 _ frames hroom, Array.toList_push,
        List.append_assoc]
      rfl

end

/-- **Decoding the text of a document is decoding the document.** -/
theorem decodeText_prettyText {α : Type} {document : Document} {room : Nat} (h : document.Fits room)
    (hroom : room ≤ depthLimit) (decode : Document → Except Fault α) :
    decodeText decode (prettyText document) = decode document := by
  have htokens := tokens_pretty document h 0 []
  have hread := assemble_tokensOf document h [] (by simpa using hroom) []
  have hnil : tokens [] = [] := by rw [tokens]
  rw [List.append_nil, hnil] at htokens
  rw [← htokens] at hread
  rw [decodeText, prettyText, String.toList_ofList, hread]
  show (decode document >>= fun value => pure value) = _
  rw [bind_pure]

end Json

end Bindery
