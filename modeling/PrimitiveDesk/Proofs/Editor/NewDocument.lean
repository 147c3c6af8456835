import PrimitiveDesk.Editor.Completion
import PrimitiveDesk.Proofs.Layout.ContextScope
import PrimitiveDesk.Proofs.Text.LineEdit

/-!
# Where a suggested document ends up

The suggestion of a new document replaces the line of the cursor by a skeleton, with the markers
that are missing around it. The nearest markers above and below the line decide which are missing
(`isOpened`, `isClosed`), and nobody looks at what stands between them and the line. So the skeleton
always stands between `---` and `...`; but where a marker is taken over, so are the lines on this
side of it.

`Suggestion.applied?` is the text with a suggestion in place of the line. `mem_complete_inv` says
what the suggestions of `complete` are for, and `exists_applied_newDocument` what the lines are
after one for a new document. A `skeleton` holds no marker unless the name of a field does
(`not_isBoundary_skeleton`).
-/

namespace PrimitiveDesk

open Layout Text

/-- The text after a suggestion that replaces a part of it. -/
def Suggestion.applied? (s : Suggestion) (text : String) : Option String :=
  s.deleteRange?.bind fun span =>
    (replaceSpan? text.toList span (s.replacedPrefix ++ s.snippet).toList).map String.ofList

namespace Completion

/-! ## The suggested text -/

/-- The two parts of `continueTyped`, what was typed and the snippet, are the whole suggested
text. -/
theorem continueTyped_append (full : String) (typed : List Char) :
    (continueTyped full typed).1 ++ (continueTyped full typed).2 = full := by
  unfold continueTyped
  split
  · next h =>
    simp only [Bool.and_eq_true, List.isPrefixOf_iff_prefix] at h
    obtain ⟨rest, hrest⟩ := h.2
    rw [← hrest, List.drop_left, ← String.ofList_append, hrest, String.ofList_toList]
  · exact String.empty_append

/-- The marker in front of the skeleton of a new document. -/
def opener (opened : Bool) : List Char := (if opened then "" else documentStart).toList

/-- The marker behind the skeleton of a new document. -/
def closer (closed : Bool) : List Char := (if closed then "" else documentEnd).toList

/-- Every suggestion is for a new document, for a new element of the sequence that the cursor is in,
or for a field of the level that it is on. -/
theorem mem_complete_inv {text : String} {position : Position} {shape : Shape}
    {kind : DataFileKind} {unit : String} {s : Suggestion}
    (hs : s ∈ complete text position shape kind unit) :
    (∃ span typed, (LineIndex.ofText text).lineSpan? position.line = some span ∧
        s = newDocument shape kind (isOpened (lines text.toList) position.line)
          (isClosed (lines text.toList) position.line) typed span) ∨
      ∃ ancestors siblings, resolve text position.line = some (.nested ancestors siblings) ∧
        ((∃ key element typed, shape.navigate? ancestors = some (.sequence key element) ∧
            s = newElement key element unit typed) ∨
          ∃ level f, shape.navigate? ancestors = some (.fields level) ∧ f ∈ level ∧
            s = newField unit f) := by
  simp only [complete] at hs
  split at hs
  · next context span hresolve hspan =>
    unfold suggest at hs
    -- `suggest` branches on the context and, inside of a document, on the level of the cursor
    split at hs
    · exact .inl ⟨span, _, hspan, List.mem_singleton.mp hs⟩
    · next ancestors siblings =>
      refine .inr ⟨ancestors, siblings, hresolve, ?_⟩
      split at hs
      · exact absurd hs List.not_mem_nil
      · next key element hlevel =>
        exact .inl ⟨key, element, _, hlevel, List.mem_singleton.mp hs⟩
      · next level hlevel =>
        obtain ⟨f, hf, rfl⟩ := List.mem_map.mp hs
        exact .inr ⟨level, f, hlevel, (List.mem_filter.mp hf).1, rfl⟩
  · exact absurd hs List.not_mem_nil

/-- Of all suggestions of `complete`, only the one for a new document is a document. -/
private theorem eq_newDocument_of_mem {text : String} {position : Position} {shape : Shape}
    {kind : DataFileKind} {unit : String} {s : Suggestion}
    (hs : s ∈ complete text position shape kind unit) (hkind : s.kind = .document) :
    ∃ span typed, (LineIndex.ofText text).lineSpan? position.line = some span ∧
      s = newDocument shape kind (isOpened (lines text.toList) position.line)
        (isClosed (lines text.toList) position.line) typed span := by
  rcases mem_complete_inv hs with hnew | ⟨_, _, _, ⟨_, _, _, _, rfl⟩ | ⟨_, _, _, _, rfl⟩⟩
  · exact hnew
  · cases hkind
  · cases hkind

/-- The lines of the text with a new document in place of a line. -/
theorem exists_applied_newDocument {text : String} {i : Nat} {span : Span}
    (h : (LineIndex.ofText text).lineSpan? i = some span) (shape : Shape) (kind : DataFileKind)
    (opened closed : Bool) (typed : List Char) :
    ∃ edited returns,
      (newDocument shape kind opened closed typed span).applied? text = some edited ∧
      (∀ c ∈ returns, c = '\r') ∧
      lines edited.toList =
        (lines text.toList).take i ++ opener opened :: (lines (skeleton shape "" true).toList ++
          dropReturn (closer closed ++ returns) :: (lines text.toList).drop (i + 1)) := by
  obtain ⟨returns, hreturns, hedit⟩ := exists_replaceSpan?_lineSpan? h
  -- the whole suggested text: the markers around the skeleton
  have hfull : ∀ s, s = newDocument shape kind opened closed typed span →
      (s.replacedPrefix ++ s.snippet).toList =
        opener opened ++ '\n' :: ((skeleton shape "" true).toList ++ '\n' :: closer closed) := by
    rintro s rfl
    simp only [newDocument, continueTyped_append, String.toList_append, opener, closer]
    simp
  obtain ⟨edited, hreplace, hlines⟩ := hedit
    (opener opened ++ '\n' :: ((skeleton shape "" true).toList ++ '\n' :: closer closed))
  refine ⟨String.ofList edited, returns, ?_, hreturns, ?_⟩
  · rw [Suggestion.applied?, hfull _ rfl]
    show (replaceSpan? text.toList span _).map String.ofList = _
    rw [hreplace, Option.map_some]
  · -- neither marker has a line feed, so that each is a line of its own
    have hopener : lines (opener opened) = [opener opened] := by cases opened <;> decide
    have hbreak : '\n' ∉ closer closed ++ returns := by
      rw [List.mem_append, not_or]
      refine ⟨by cases closed <;> decide, fun hmem => ?_⟩
      exact absurd (hreturns _ hmem) (by decide)
    have hcloser : lines (closer closed ++ returns) = [dropReturn (closer closed ++ returns)] := by
      rw [lines, rawLines_of_not_mem hbreak]
      rfl
    have hassoc :
        opener opened ++ '\n' :: ((skeleton shape "" true).toList ++ '\n' :: closer closed) ++
          returns =
        opener opened ++ '\n' :: ((skeleton shape "" true).toList ++
          '\n' :: (closer closed ++ returns)) := by simp
    rw [String.toList_ofList, hlines, hassoc, lines_append_newline_append,
      lines_append_newline_append, hopener, hcloser]
    simp only [List.append_assoc, List.cons_append, List.nil_append]

/-! ## The lines around the skeleton -/

/-- A line that starts with the end marker is one, whatever follows. -/
private theorem startsWithAny_documentEnd_append (tail : List Char) :
    startsWithAny (documentEnd.toList ++ tail) [documentStart, documentEnd] = some documentEnd := by
  have hblank : ∀ c ∈ documentEnd.toList, isBlank c = false := not_blank_of_mem (by decide)
  have hdot : isBlank '.' = false := by decide
  have hstart : trimStart (documentEnd.toList ++ tail) = documentEnd.toList ++ tail :=
    trimStart_append_cons (List.forall_mem_nil _) hdot ('.' :: '.' :: tail)
  have hend : documentEnd.toList <+: trim (documentEnd.toList ++ tail) := by
    rw [trim, hstart, prefix_trimEnd_iff hblank]
    exact List.prefix_append _ _
  have hopen : ¬documentStart.toList <+: trim (documentEnd.toList ++ tail) := by
    intro h
    have hcons : '-' :: ['-', '-'] <+: '.' :: ('.' :: '.' :: tail) :=
      (hstart ▸ h).trans (trimEnd_isPrefix _)
    exact absurd (List.cons_prefix_cons.mp hcons).1 (by decide)
  rw [startsWithAny, List.find?_cons_of_neg (by simpa using hopen),
    List.find?_cons_of_pos (by simpa using hend)]

/-- The line of the opening marker. If it is left out, the line is empty. -/
private theorem startsWithAny_opener (opened : Bool) :
    startsWithAny (opener opened) [documentStart, documentEnd] =
      if opened then none else some documentStart := by
  cases opened <;> rfl

/-- The line of the closing marker with carriage returns behind it. If the marker is left out, the
line is blank. -/
private theorem startsWithAny_closer (closed : Bool) {returns : List Char}
    (hreturns : ∀ c ∈ returns, c = '\r') :
    startsWithAny (dropReturn (closer closed ++ returns)) [documentStart, documentEnd] =
        (if closed then none else some documentEnd) ∧
      (closed = true → isRelevant (dropReturn (closer closed ++ returns)) = false) := by
  cases closed with
  -- nothing but carriage returns is left on the line
  | true =>
    have hblank : ∀ c ∈ dropReturn returns, isBlank c := by
      intro c hc
      rw [hreturns c (mem_of_mem_dropReturn hc)]
      decide
    have hnone := isBoundary_of_blank hblank
    rw [isBoundary, Option.isSome_eq_false_iff, Option.isNone_iff_eq_none] at hnone
    exact ⟨hnone, fun _ => isRelevant_of_blank hblank⟩
  | false =>
    have hline : dropReturn (closer false ++ returns) = documentEnd.toList ++ dropReturn returns :=
      dropReturn_append_cons (by decide) ['.', '.'] returns
    rw [hline]
    exact ⟨startsWithAny_documentEnd_append _, by simp⟩

end Completion

namespace Layout

/-- A block of lines stands in a document of `ls`, from line `first` on: the nearest marker above it
opens the document, the nearest marker below it closes it, and between these markers and the block
the lines `above` and `below` count. -/
structure Inset (ls block : List (List Char)) (first : Nat) (above below : List (List Char)) :
    Prop where
  block_eq : (ls.drop first).take block.length = block
  opened : firstToken ls first .backward [documentStart, documentEnd] = some documentStart
  closed : firstToken ls (first + block.length - 1) .forward [documentStart, documentEnd] =
    some documentEnd
  above_eq : countedAbove ls first = above
  below_eq : countedBelow ls (first + block.length - 1) = below

/-- The document tells which lines stand around the block. -/
private theorem Inset.iff_eq {ls block above below above' below' : List (List Char)} {first : Nat}
    (h : Inset ls block first above below) :
    Inset ls block first above' below' ↔ above = above' ∧ below = below' := by
  constructor
  · intro h'
    exact ⟨h.above_eq.symm.trans h'.above_eq, h.below_eq.symm.trans h'.below_eq⟩
  · rintro ⟨rfl, rfl⟩
    exact h

/-- A line with or without a marker in front of a walk. Without one, it does not count. -/
private theorem walk_cons {l : List Char} {found : Bool} {token : String}
    (hl : startsWithAny l [documentStart, documentEnd] = if found then none else some token)
    (hrelevant : found = true → isRelevant l = false) (walk : List (List Char))
    (hwalk : found =
      ((walk.findSome? fun l => startsWithAny l [documentStart, documentEnd]) == some token)) :
    ((l :: walk).findSome? fun l => startsWithAny l [documentStart, documentEnd]) = some token ∧
      reach (l :: walk) = if found then reach walk else [] := by
  cases found with
  | true =>
    have hboundary : isBoundary l = false := by rw [isBoundary, hl]; rfl
    rw [List.findSome?_cons, hl, reach_cons_of_not_relevant hboundary (hrelevant rfl)]
    exact ⟨by simpa using hwalk, rfl⟩
  | false =>
    have hboundary : isBoundary l = true := by rw [isBoundary, hl]; rfl
    rw [List.findSome?_cons, hl, reach_cons_of_boundary hboundary]
    exact ⟨rfl, rfl⟩

end Layout

namespace Completion

/-- Lines with a block and the missing markers in place of a line. -/
private theorem inset_insert {old : List (List Char)} {i : Nat} (hi : i ≤ old.length)
    (block : List (List Char)) {returns : List Char} (hreturns : ∀ c ∈ returns, c = '\r') :
    Inset
      (old.take i ++ opener (isOpened old i) ::
        (block ++ dropReturn (closer (isClosed old i) ++ returns) :: old.drop (i + 1)))
      block (i + 1) (if isOpened old i then countedAbove old i else [])
      (if isClosed old i then countedBelow old i else []) := by
  generalize hnew : old.take i ++ opener (isOpened old i) ::
    (block ++ dropReturn (closer (isClosed old i) ++ returns) :: old.drop (i + 1)) = new
  have hlength : (old.take i).length = i := List.length_take_of_le hi
  have hlast : i + 1 + block.length - 1 = i + block.length := by omega
  -- the walks away from the block meet the lines of the markers first, and then the old lines
  have hdrop : new.drop (i + 1) =
      block ++ dropReturn (closer (isClosed old i) ++ returns) :: old.drop (i + 1) := by
    rw [← hnew, List.drop_append, hlength, List.drop_of_length_le (by omega)]
    simp
  have hup : beside new (i + 1) .backward = opener (isOpened old i) :: beside old i .backward := by
    rw [beside, beside, ← hnew, List.take_append, hlength, List.take_of_length_le (by omega)]
    simp
  have hdown : beside new (i + block.length) .forward =
      dropReturn (closer (isClosed old i) ++ returns) :: beside old i .forward := by
    have hadd : i + block.length + 1 = i + 1 + block.length := by omega
    rw [beside, beside, hadd, ← List.drop_drop, hdrop, List.drop_left]
  have hopener := walk_cons (startsWithAny_opener (isOpened old i)) (by intro h; rw [h]; rfl)
    (beside old i .backward) rfl
  obtain ⟨hmarker, hblank⟩ := startsWithAny_closer (isClosed old i) hreturns
  have hcloser := walk_cons hmarker hblank (beside old i .forward) rfl
  refine ⟨?_, ?_, ?_, ?_, ?_⟩
  · rw [hdrop, List.take_left]
  · rw [firstToken, hup]
    exact hopener.1
  · rw [firstToken, hlast, hdown]
    exact hcloser.1
  · rw [← List.reverse_inj, ← reach_backward, hup, hopener.2, reach_backward]
    cases isOpened old i <;> rfl
  · rw [hlast, ← reach_forward, hdown, hcloser.2]
    rfl

/-! ## The lines of the skeleton -/

/-- Whether a character of literal text gets a backslash in a snippet. -/
def isSpecial (c : Char) : Bool := c == '$' || c == '\x7d' || c == '\\'

/-- A character of literal text inside a snippet. -/
def escapeChar (c : Char) : List Char := if isSpecial c then ['\\', c] else [c]

/-- `escapeSnippet` writes literal text one character at a time. -/
theorem toList_escapeSnippet (text : String) :
    (escapeSnippet text).toList = text.toList.flatMap escapeChar := by
  rw [escapeSnippet, String.toList_ofList]
  rfl

/-- Blanks are not escaped. -/
theorem escapeChar_of_isBlank {c : Char} (h : isBlank c = true) : escapeChar c = [c] := by
  have hspecial : isSpecial c = false := by
    rw [← Bool.not_eq_true]
    intro hc
    simp only [isSpecial, Bool.or_eq_true, beq_iff_eq] at hc
    rcases hc with (rfl | rfl) | rfl <;> exact absurd h (by decide)
  rw [escapeChar, hspecial]
  rfl

/-- Leading blanks of literal text stay leading blanks. -/
private theorem trimStart_flatMap_escapeChar (cs : List Char) :
    trimStart (cs.flatMap escapeChar) = (trimStart cs).flatMap escapeChar := by
  induction cs with
  | nil => rfl
  | cons c cs ih =>
    cases hc : isBlank c with
    | true =>
      rw [List.flatMap_cons, escapeChar_of_isBlank hc, List.singleton_append, trimStart,
        List.dropWhile_cons_of_pos hc, trimStart, List.dropWhile_cons_of_pos hc]
      exact ih
    | false =>
      have hself : trimStart (c :: cs) = c :: cs := by
        rw [trimStart, List.dropWhile_cons_of_neg (by simp [hc])]
      -- the first character stays, or a backslash comes in front of it; both are no blanks
      have hslash : isBlank '\\' = false := by decide
      rw [hself, List.flatMap_cons, escapeChar]
      split <;> simp [trimStart, hslash, hc]

/-- A token without special characters starts literal text if and only if it starts the text. -/
private theorem prefix_flatMap_escapeChar_iff {token : List Char} (h : token.any isSpecial = false)
    (cs : List Char) : token <+: cs.flatMap escapeChar ↔ token <+: cs := by
  induction token generalizing cs with
  | nil => simp
  | cons t token ih =>
    rw [List.any_cons, Bool.or_eq_false_iff] at h
    cases cs with
    | nil => simp
    | cons c cs =>
      rw [List.flatMap_cons, escapeChar]
      split
      · -- the text has a special character here, which the token has not
        next hc =>
        have hslash : t ≠ '\\' := by rintro rfl; exact absurd h.1 (by decide)
        have hne : t ≠ c := by rintro rfl; simp [h.1] at hc
        simp [List.cons_prefix_cons, hslash, hne]
      · rw [List.singleton_append, List.cons_prefix_cons, List.cons_prefix_cons, ih h.2]

end Completion

namespace Layout

/-- `isBoundary` looks for a marker right behind the leading blanks of a line, whatever they are. -/
theorem isBoundary_iff_trimStart (line : List Char) :
    isBoundary line = true ↔
      documentStart.toList <+: trimStart line ∨ documentEnd.toList <+: trimStart line := by
  have hstart : ∀ c ∈ documentStart.toList, isBlank c = false := not_blank_of_mem (by decide)
  have hend : ∀ c ∈ documentEnd.toList, isBlank c = false := not_blank_of_mem (by decide)
  rw [isBoundary, startsWithAny, List.find?_isSome, trim]
  simp only [List.mem_cons, List.not_mem_nil, or_false, List.isPrefixOf_iff_prefix,
    exists_eq_or_imp, exists_eq_left, prefix_trimEnd_iff hstart, prefix_trimEnd_iff hend]

/-- What follows a line behind a colon does not make it a marker. -/
private theorem isBoundary_append_colon_eq (line tail : List Char) :
    isBoundary (line ++ ':' :: tail) = isBoundary line := by
  have htrim : trimStart (line ++ ':' :: tail) = trimStart line ++ ':' :: tail := by
    have hcolon : isBlank ':' = false := by decide
    rw [trimStart, List.dropWhile_append, ← trimStart]
    split
    · next h => simp [List.isEmpty_iff.mp h, hcolon]
    · rfl
  rw [Bool.eq_iff_iff, isBoundary_iff_trimStart, isBoundary_iff_trimStart, htrim,
    prefix_append_colon_iff (by decide), prefix_append_colon_iff (by decide)]

/-- The carriage return of a line ending does not make a line a marker. -/
theorem isBoundary_dropReturn (line : List Char) :
    isBoundary (dropReturn line) = isBoundary line := by
  -- the line has no carriage return at its end, or one that is a blank
  rcases dropReturn_append line with h | h
  · rw [h]
  · generalize dropReturn line = stem at h
    subst h
    have hreturn : isBlank '\r' = true := by decide
    have hprefix : ∀ token : List Char, '\r' ∉ token → token ≠ [] →
        (token <+: trimStart stem ↔ token <+: trimStart (stem ++ ['\r'])) := by
      intro token htoken hne
      rw [trimStart, trimStart, List.dropWhile_append]
      split
      · next h => simp [List.isEmpty_iff.mp h, hreturn]
      · rw [List.prefix_concat_iff]
        refine ⟨Or.inr, fun h => h.resolve_left fun heq => htoken ?_⟩
        simp [heq]
    rw [Bool.eq_iff_iff, isBoundary_iff_trimStart, isBoundary_iff_trimStart,
      hprefix _ (by decide) (by decide), hprefix _ (by decide) (by decide)]

end Layout

namespace Completion

/-- Literal text is a marker in a snippet if and only if it is one outside. -/
private theorem isBoundary_flatMap_escapeChar (line : List Char) :
    isBoundary (line.flatMap escapeChar) = isBoundary line := by
  rw [Bool.eq_iff_iff, isBoundary_iff_trimStart, isBoundary_iff_trimStart,
    trimStart_flatMap_escapeChar, prefix_flatMap_escapeChar_iff (by decide),
    prefix_flatMap_escapeChar_iff (by decide)]

/-- Escaping brings no line feeds in. -/
theorem not_mem_flatMap_escapeChar {cs : List Char} (h : '\n' ∉ cs) :
    '\n' ∉ cs.flatMap escapeChar := by
  intro hmem
  obtain ⟨c, hc, hbreak⟩ := List.mem_flatMap.mp hmem
  have hcases : '\n' = c := by
    unfold escapeChar at hbreak
    split at hbreak <;> simpa using hbreak
  exact h (hcases ▸ hc)

/-- The line of a field holds no marker unless its name does. -/
private theorem not_isBoundary_literal {tail : List Char} (htail : '\n' ∉ tail) {name : List Char}
    (h : ∀ l ∈ lines name, isBoundary l = false) :
    ∀ l ∈ lines (name.flatMap escapeChar ++ ':' :: tail), isBoundary l = false := by
  -- the name is cut at its line feeds, one line after the other
  induction hn : name.length using Nat.strong_induction_on generalizing name with
  | _ n ih =>
  by_cases hmem : '\n' ∈ name
  · obtain ⟨first, rest, rfl, hfirst⟩ := List.eq_append_cons_of_mem hmem
    rw [lines_append_newline_append, List.forall_mem_append] at h
    have hcut : (first ++ '\n' :: rest).flatMap escapeChar ++ ':' :: tail =
        first.flatMap escapeChar ++ '\n' :: (rest.flatMap escapeChar ++ ':' :: tail) := by
      rw [List.flatMap_append, List.flatMap_cons, escapeChar_of_isBlank (by decide)]
      simp
    rw [hcut, lines_append_newline_append, List.forall_mem_append]
    refine ⟨?_, ih rest.length (by simp at hn; omega) h.2 rfl⟩
    have hline : isBoundary first = false := by
      simpa [lines, rawLines_of_not_mem hfirst, isBoundary_dropReturn] using h.1
    simpa [lines, rawLines_of_not_mem (not_mem_flatMap_escapeChar hfirst), isBoundary_dropReturn,
      isBoundary_flatMap_escapeChar] using hline
  · have hline : isBoundary name = false := by
      simpa [lines, rawLines_of_not_mem hmem, isBoundary_dropReturn] using h
    have hbreak : '\n' ∉ name.flatMap escapeChar ++ ':' :: tail := by
      have hname := not_mem_flatMap_escapeChar hmem
      simp [hname, htail]
    simpa [lines, rawLines_of_not_mem hbreak, isBoundary_dropReturn, isBoundary_append_colon_eq,
      isBoundary_flatMap_escapeChar] using hline

theorem not_mem_placeholder (node : SchemaNode) : '\n' ∉ (placeholder node).toList := by
  unfold placeholder
  split <;> decide

/-- A `fieldLine` is the escaped name, a colon and the placeholder. -/
theorem toList_fieldLine (f : String × SchemaNode) :
    (fieldLine f).toList = f.1.toList.flatMap escapeChar ++ ':' :: (placeholder f.2).toList := by
  simp [fieldLine, toList_escapeSnippet]

/-- The `skeleton` with all of its lines indented. -/
theorem toList_skeleton_true (shape : Shape) (indent : String) :
    (skeleton shape indent true).toList =
      List.intercalate ['\n'] ((shape.filter fun f => f.2.isRequired).map fun f =>
        indent.toList ++ (fieldLine f).toList) := by
  unfold skeleton
  cases shape.filter fun f => f.2.isRequired with
  | nil => rfl
  | cons first rest =>
    simp only [List.map_cons, if_true]
    rw [String.toList_intercalate, List.map_cons, List.map_map, List.map_map]
    simp only [Function.comp_def, String.toList_append]
    rfl

/-- A `skeleton` without indentation is made of the lines of the required fields. -/
theorem toList_skeleton (shape : Shape) :
    (skeleton shape "" true).toList =
      List.intercalate ['\n'] ((shape.filter fun f => f.2.isRequired).map fun f =>
        f.1.toList.flatMap escapeChar ++ ':' :: (placeholder f.2).toList) := by
  rw [toList_skeleton_true]
  simp only [toList_fieldLine]
  rfl

/-- A property of all lines of some texts, and of the empty line, holds of the lines of the joined
text. -/
private theorem forall_mem_lines_intercalate {P : List Char → Prop} (hnil : P [])
    {texts : List (List Char)} (h : ∀ t ∈ texts, ∀ l ∈ lines t, P l) :
    ∀ l ∈ lines (List.intercalate ['\n'] texts), P l := by
  induction texts with
  | nil =>
    intro l hl
    obtain rfl : l = [] := by simpa [lines, rawLines, dropReturn] using hl
    exact hnil
  | cons t rest ih =>
    rw [List.forall_mem_cons] at h
    cases rest with
    | nil => simpa using h.1
    | cons u rest =>
      rw [List.intercalate_cons_cons, List.append_assoc, List.singleton_append,
        lines_append_newline_append, List.forall_mem_append]
      exact ⟨h.1, ih h.2⟩

/-- A `skeleton` holds no marker unless the name of a field does. -/
theorem not_isBoundary_skeleton {shape : Shape}
    (h : ∀ f ∈ shape, ∀ l ∈ lines f.1.toList, isBoundary l = false) :
    ∀ l ∈ lines (skeleton shape "" true).toList, isBoundary l = false := by
  rw [toList_skeleton]
  refine forall_mem_lines_intercalate (by decide) ?_
  intro t ht
  obtain ⟨f, hf, rfl⟩ := List.mem_map.mp ht
  exact not_isBoundary_literal (not_mem_placeholder f.2) (h f (List.mem_filter.mp hf).1)

end Completion

/-! ## The suggested document -/

open Completion in
/-- Every suggestion of a new document can be applied. Its skeleton then stands between `---` and
`...`, and holds no marker itself if the names of the fields hold none. Besides the skeleton, the
lines that count there are those between the cursor and the marker above if that marker opens a
document, and those between the cursor and the marker below if that marker closes one. So the
skeleton is a document of its own if and only if there are no such lines. -/
theorem inset_newDocument {text : String} {position : Position} {shape : Shape}
    {kind : DataFileKind} {unit : String} {s : Suggestion}
    (hs : s ∈ complete text position shape kind unit) (hkind : s.kind = .document) :
    ∃ edited, s.applied? text = some edited ∧
      Inset (lines edited.toList) (lines (skeleton shape "" true).toList) (position.line + 1)
        (if isOpened (lines text.toList) position.line then
          countedAbove (lines text.toList) position.line else [])
        (if isClosed (lines text.toList) position.line then
          countedBelow (lines text.toList) position.line else []) ∧
      (Inset (lines edited.toList) (lines (skeleton shape "" true).toList) (position.line + 1)
          [] [] ↔
        (isOpened (lines text.toList) position.line = true →
          countedAbove (lines text.toList) position.line = []) ∧
        (isClosed (lines text.toList) position.line = true →
          countedBelow (lines text.toList) position.line = [])) ∧
      ((∀ f ∈ shape, ∀ l ∈ lines f.1.toList, isBoundary l = false) →
        ∀ l ∈ lines (skeleton shape "" true).toList, isBoundary l = false) := by
  obtain ⟨span, typed, hspan, rfl⟩ := eq_newDocument_of_mem hs hkind
  obtain ⟨edited, returns, happlied, hreturns, hlines⟩ :=
    exists_applied_newDocument hspan shape kind (isOpened (lines text.toList) position.line)
      (isClosed (lines text.toList) position.line) typed
  -- a line with a span is a line of the text
  have hline : position.line ≤ (lines text.toList).length := by
    obtain ⟨line, hget, -⟩ := Option.map_eq_some_iff.mp hspan
    have hlt := (List.getElem?_eq_some_iff.mp hget).1
    simpa [lines, LineIndex.ofText] using hlt.le
  have hinset := inset_insert hline (lines (skeleton shape "" true).toList) hreturns
  rw [← hlines] at hinset
  refine ⟨edited, happlied, hinset, ?_, not_isBoundary_skeleton⟩
  rw [hinset.iff_eq]
  simp only [ite_eq_right_iff]

/-- A level with one field, which is required. -/
def nameShape : Shape := [("name", .scalar (.bare .required) .string)]

/-- On an empty line between the markers of an empty document, the skeleton is alone. -/
theorem inset_emptyDocument :
    ∃ s ∈ complete "---\n\n...\n" ⟨1, 0⟩ nameShape .primitive "  ", s.kind = .document ∧
      s.replacedPrefix ++ s.snippet = "\nname: ''\n" ∧
      ∃ edited, s.applied? "---\n\n...\n" = some edited ∧
        Inset (lines edited.toList) (lines "name: ''".toList) 2 [] [] := by
  have hcomplete : complete "---\n\n...\n" ⟨1, 0⟩ nameShape .primitive "  " =
      [⟨"New primitive:", .document, "\nname: ''\n", "", none, some ⟨4, 4⟩⟩] := by decide +kernel
  refine ⟨_, hcomplete ▸ List.mem_singleton_self _, rfl, by decide, ?_⟩
  obtain ⟨edited, happlied, -, halone, -⟩ :=
    inset_newDocument (hcomplete ▸ List.mem_singleton_self _) rfl
  exact ⟨edited, happlied, halone.mpr ⟨by decide, by decide⟩⟩

/-- On the marker that opens a written document, the skeleton is put into that document, although no
name of a field is a marker. -/
theorem marker_line_merges :
    (∀ f ∈ nameShape, ∀ l ∈ lines f.1.toList, isBoundary l = false) ∧
      ∃ s ∈ complete "---\nname: a\n..." ⟨0, 3⟩ nameShape .primitive "  ", s.kind = .document ∧
        s.applied? "---\nname: a\n..." = some "---\nname: ''\n\nname: a\n..." ∧
        countedBelow (lines "---\nname: ''\n\nname: a\n...".toList) 1 = ["name: a".toList] ∧
        ¬Inset (lines "---\nname: ''\n\nname: a\n...".toList) (lines "name: ''".toList) 1
          [] [] := by
  have hcomplete : complete "---\nname: a\n..." ⟨0, 3⟩ nameShape .primitive "  " =
      [⟨"New primitive:", .document, "\nname: ''\n", "---", none, some ⟨0, 3⟩⟩] := by decide +kernel
  have hbelow : countedBelow (lines "---\nname: ''\n\nname: a\n...".toList) 1 =
      ["name: a".toList] := by decide
  refine ⟨by decide, _, hcomplete ▸ List.mem_singleton_self _, rfl, by decide +kernel, hbelow, ?_⟩
  intro h
  exact absurd (hbelow.symm.trans h.below_eq) (by decide)

end PrimitiveDesk
