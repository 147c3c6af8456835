import PrimitiveDesk.Proofs.Layout.LineShape

/-!
# The one way to cut a line

Many readings of a line fit the pattern of leading blanks, maybe a dash with blanks, and a key
without a colon. A reading is a cut if its parts also end where they have to: no blank and no dash
is left to the key, and the key ends at a colon or with the line.

Every line has exactly one cut, which `LineShape.of` gives (`LineShape.isCut_of`,
`LineShape.IsCut.unique`). It is the greediest reading, part by part from the left
(`LineShape.IsCut.upTo`), and all questions about the line are answered from it
(`answers_from_cut`).
-/

namespace PrimitiveDesk.Layout

open Text

namespace LineShape

/-- The dash and the blanks behind it, if there is a dash. -/
def dashText (s : LineShape) : List Char :=
  match s.dash? with
  | none => []
  | some gap => '-' :: gap

/-- A reading of a line: blanks, maybe a dash with blanks, a key without a colon, and a rest. -/
structure Fits (s : LineShape) (line : List Char) : Prop where
  text_eq : s.text = line
  lead_blank : ∀ c ∈ s.lead, isBlank c = true
  gap_blank : ∀ gap ∈ s.dash?, ∀ c ∈ gap, isBlank c = true
  key_colon : ':' ∉ s.key

/-- A reading that leaves nothing of a part to the next one. -/
structure IsCut (s : LineShape) (line : List Char) : Prop extends Fits s line where
  key_head_blank : ∀ c ∈ s.key.head?, isBlank c = false
  key_head_dash : s.key.head? = some '-' → s.dash?.isSome = true
  rest_head : s.rest = [] ∨ s.rest.head? = some ':'

/-- A reading takes no more than another, where an earlier part counts more than all later ones. -/
def UpTo (s t : LineShape) : Prop :=
  s.lead.length ≤ t.lead.length ∧
    (s.lead.length = t.lead.length → s.dashText.length ≤ t.dashText.length ∧
      (s.dashText.length = t.dashText.length → s.key.length ≤ t.key.length))

/-! ## Greedy readings -/

/-- A part that ends in front of a character outside of its class is as long as it can be. -/
private theorem length_le_of_append_eq {p : Char → Bool} {xs ys xs' ys' : List Char}
    (h : xs ++ ys = xs' ++ ys') (hclass : ∀ c ∈ xs, p c = true)
    (hend : ∀ c ∈ ys'.head?, p c = false) : xs.length ≤ xs'.length := by
  -- otherwise the longer part would go on with the character that ends the other one
  rcases List.append_eq_append_iff.mp h with ⟨more, rfl, -⟩ | ⟨more, rfl, rfl⟩
  · simp
  · cases more with
    | nil => simp
    | cons c more =>
      have hc : p c = true := hclass c (by simp)
      rw [hend c rfl] at hc
      exact absurd hc (by decide)

section Readings

variable {s t : LineShape} {line : List Char}

private theorem text_eq_append (s : LineShape) :
    s.text = s.lead ++ (s.dashText ++ (s.key ++ s.rest)) := by
  rw [text, List.append_assoc, List.append_assoc]
  rfl

/-- Two readings of a line have the same text. -/
private theorem Fits.append_eq (h : s.Fits line) (ht : t.Fits line) :
    t.lead ++ (t.dashText ++ (t.key ++ t.rest)) = s.lead ++ (s.dashText ++ (s.key ++ s.rest)) := by
  rw [← text_eq_append, ← text_eq_append, ht.text_eq, h.text_eq]

/-- Readings of a line that take no more than each other are the same. -/
private theorem Fits.eq_of_upTo (h : s.Fits line) (ht : t.Fits line) (hts : t.UpTo s)
    (hst : s.UpTo t) :
    t = s := by
  have hlead : t.lead.length = s.lead.length := Nat.le_antisymm hts.1 hst.1
  obtain ⟨hdash, hkey⟩ := hts.2 hlead
  obtain ⟨hdash', hkey'⟩ := hst.2 hlead.symm
  have hdash : t.dashText.length = s.dashText.length := Nat.le_antisymm hdash hdash'
  have hkey : t.key.length = s.key.length := Nat.le_antisymm (hkey hdash) (hkey' hdash.symm)
  -- parts of the same length are the same, from the left to the right
  obtain ⟨hlead, htail⟩ := List.append_inj (h.append_eq ht) hlead
  obtain ⟨hdash, hbody⟩ := List.append_inj htail hdash
  obtain ⟨hkey, hrest⟩ := List.append_inj hbody hkey
  obtain ⟨lead, dash?, key, rest⟩ := s
  obtain ⟨lead', dash?', key', rest'⟩ := t
  cases dash? <;> cases dash?' <;> simp_all [dashText]

end Readings

namespace IsCut

variable {s t : LineShape} {line : List Char}

/-- Behind the dash of a cut stands no blank. -/
private theorem body_head (h : s.IsCut line) :
    ∀ c ∈ (s.key ++ s.rest).head?, isBlank c = false ∧ (c = '-' → s.dash?.isSome = true) := by
  intro c hc
  cases hkey : s.key with
  | cons d key =>
    obtain rfl : d = c := by simpa [hkey] using hc
    refine ⟨h.key_head_blank d (by simp [hkey]), ?_⟩
    rintro rfl
    exact h.key_head_dash (by simp [hkey])
  | nil =>
    rw [hkey, List.nil_append] at hc
    rcases h.rest_head with hnil | hcolon
    · simp [hnil] at hc
    · obtain rfl : ':' = c := by simpa [hcolon] using hc
      exact ⟨by decide, fun hdash => absurd hdash (by decide)⟩

/-- Behind the leading blanks of a cut stands no blank. -/
private theorem tail_head (h : s.IsCut line) :
    ∀ c ∈ (s.dashText ++ (s.key ++ s.rest)).head?, isBlank c = false := by
  intro c hc
  unfold dashText at hc
  split at hc
  · exact (h.body_head c hc).1
  · obtain rfl : '-' = c := by simpa using hc
    decide

/-- The key of a cut reaches to the first colon. -/
private theorem key_length_le (h : s.IsCut line) (ht : t.Fits line)
    (heq : t.key ++ t.rest = s.key ++ s.rest) : t.key.length ≤ s.key.length := by
  refine length_le_of_append_eq (p := fun c => c != ':') heq (fun c hc => ?_) (fun c hc => ?_)
  · rw [bne_iff_ne]
    rintro rfl
    exact ht.key_colon hc
  · rcases h.rest_head with hnil | hcolon
    · simp [hnil] at hc
    · obtain rfl : ':' = c := by simpa [hcolon] using hc
      decide

/-- No reading takes more than a cut. -/
theorem upTo (h : s.IsCut line) (ht : t.Fits line) : t.UpTo s := by
  have htext := h.toFits.append_eq ht
  refine ⟨length_le_of_append_eq htext ht.lead_blank h.tail_head, fun hlead => ?_⟩
  have htail := (List.append_inj htext hlead).2
  unfold dashText at htail ⊢
  -- the leads are the same; where only one reading has a dash it is the cut
  cases hdash : t.dash? with
  | none =>
    refine ⟨Nat.zero_le _, fun hlength => ?_⟩
    rw [hdash] at htail
    cases hdash' : s.dash? with
    | none =>
      rw [hdash'] at htail
      exact h.key_length_le ht htail
    | some gap' => simp [hdash'] at hlength
  | some gap =>
    rw [hdash, List.cons_append] at htail
    cases hdash' : s.dash? with
    | none =>
      -- the dash would be the first character of the key
      rw [hdash', List.nil_append] at htail
      have hsome := (h.body_head '-' (by simp [← htail])).2 rfl
      simp [hdash'] at hsome
    | some gap' =>
      rw [hdash', List.cons_append, List.cons.injEq] at htail
      have hgap : gap.length ≤ gap'.length :=
        length_le_of_append_eq htail.2 (ht.gap_blank gap hdash) fun c hc => (h.body_head c hc).1
      refine ⟨Nat.succ_le_succ hgap, fun hlength => ?_⟩
      exact h.key_length_le ht (List.append_inj htail.2 (Nat.succ.inj hlength)).2

/-- Each of two cuts of a line takes no more than the other. -/
theorem unique (h : s.IsCut line) (ht : t.IsCut line) : t = s :=
  h.toFits.eq_of_upTo ht.toFits (h.upTo ht.toFits) (ht.upTo h.toFits)

end IsCut

/-! ## The shape of a line -/

private theorem head?_of_takeWhile {p : Char → Bool} {c : Char} {cs : List Char}
    (h : (cs.takeWhile p).head? = some c) : cs.head? = some c := by
  rw [List.head?_takeWhile] at h
  exact (Option.filter_eq_some_iff.mp h).1

/-- `ofBody` cuts a body that does not start with a blank at its first colon. -/
private theorem isCut_ofBody {lead : List Char} {dash? : Option (List Char)} {body line : List Char}
    (htext : (ofBody lead dash? body).text = line) (hlead : ∀ c ∈ lead, isBlank c = true)
    (hgap : ∀ gap ∈ dash?, ∀ c ∈ gap, isBlank c = true)
    (hblank : ∀ c ∈ body.head?, isBlank c = false)
    (hdash : body.head? = some '-' → dash?.isSome = true) :
    (ofBody lead dash? body).IsCut line where
  text_eq := htext
  lead_blank := hlead
  gap_blank := hgap
  key_colon := by
    intro hmem
    simpa using List.mem_takeWhile_imp hmem
  key_head_blank := by
    intro c hc
    exact hblank c (head?_of_takeWhile hc)
  key_head_dash := fun h => hdash (head?_of_takeWhile h)
  rest_head := by
    cases hrest : body.dropWhile (· != ':') with
    | nil => exact .inl hrest
    | cons c rest =>
      have hc := List.head?_dropWhile_not (· != ':') body
      right
      simp_all [ofBody]

/-- `LineShape.of` is a cut of the line. -/
theorem isCut_of (line : List Char) : (of line).IsCut line := by
  have hblank : ∀ cs : List Char, ∀ c ∈ cs.takeWhile isBlank, isBlank c = true :=
    fun cs c hc => List.mem_takeWhile_imp hc
  have htext := of_text line
  generalize hs : of line = s at htext ⊢
  unfold of at hs
  -- `of` looks at the first character behind the blanks
  split at hs
  · next body hbody =>
    subst hs
    refine isCut_ofBody htext (hblank line) ?_ (fun c => not_blank_of_head?_trimStart) fun _ => rfl
    rintro gap ⟨⟩
    exact hblank body
  · next hbody =>
    subst hs
    refine isCut_ofBody htext (hblank line) (by simp) (fun c => not_blank_of_head?_trimStart) ?_
    intro hhead
    obtain ⟨body, hcons⟩ := List.head?_eq_some_iff.mp hhead
    exact absurd hcons (hbody body)

end LineShape

/-! ## What is told of a line -/

/-- A text with a character that is not blank is not trimmed away. -/
private theorem trimEnd_ne_nil {cs : List Char} {c : Char} (hc : c ∈ cs)
    (hblank : isBlank c = false) :
    trimEnd cs ≠ [] := by
  intro hnil
  rw [trimEnd, List.reverse_eq_nil_iff, List.dropWhile_eq_nil_iff] at hnil
  have htrue := hnil c (List.mem_reverse.mpr hc)
  rw [hblank] at htrue
  exact absurd htrue (by decide)

namespace LineShape.IsCut

variable {s : LineShape} {line : List Char}

private theorem of_eq (h : s.IsCut line) : of line = s :=
  h.unique (isCut_of line)

/-- `entryColumn?` gives a column exactly if the cut has a dash, and the entry starts behind it. -/
private theorem entryColumn?_eq (h : s.IsCut line) :
    entryColumn? line = if s.dash?.isSome then some (s.lead ++ s.dashText).length else none := by
  rw [entryColumn?, h.of_eq, dashText]
  cases s.dash? with
  | none => rfl
  | some gap =>
    simp only [Option.map_some, Option.isSome_some, if_true, List.length_append, List.length_cons]
    congr 1
    omega

/-- `structuralKeys` by the cut: one for the dash, one for the key. -/
private theorem structuralKeys_eq (h : s.IsCut line) :
    structuralKeys line =
      (if s.dash?.isSome then [itemsKey] else []) ++
        (if s.key = [] then [] else [String.ofList (trimEnd s.key)]) := by
  rw [structuralKeys, h.of_eq]
  by_cases hkey : s.key = [] <;> simp [hkey]

/-- A key of a cut starts with a character that is not blank, so something is left of it. -/
private theorem trimEnd_key_ne_nil (h : s.IsCut line) (hkey : s.key ≠ []) : trimEnd s.key ≠ [] := by
  obtain ⟨c, key, hcons⟩ := List.exists_cons_of_ne_nil hkey
  have hblank : isBlank c = false := h.key_head_blank c (by simp [hcons])
  exact trimEnd_ne_nil (by simp [hcons]) hblank

/-- No one of the `structuralKeys` is empty or has a colon. -/
private theorem not_empty_of_mem_structuralKeys (h : s.IsCut line) {token : String}
    (htoken : token ∈ structuralKeys line) : token ≠ "" ∧ ':' ∉ token.toList := by
  rw [h.structuralKeys_eq, List.mem_append] at htoken
  -- a token is the key for an entry, or the key of the line without its last blanks
  rcases htoken with hitems | hkey
  · obtain rfl : token = itemsKey := by
      split at hitems
      · exact List.mem_singleton.mp hitems
      · simp at hitems
    decide
  · split at hkey
    · simp at hkey
    · next hne =>
      obtain rfl := List.mem_singleton.mp hkey
      have hcolon : ':' ∉ trimEnd s.key := fun hmem =>
        h.key_colon ((trimEnd_isPrefix s.key).subset hmem)
      refine ⟨fun hempty => h.trimEnd_key_ne_nil hne ?_, by rwa [String.toList_ofList]⟩
      rw [← String.toList_ofList (l := trimEnd s.key), hempty]
      rfl

/-- `hasFinishedKey` by the cut: there is a key, and a colon behind it. -/
private theorem hasFinishedKey_iff (h : s.IsCut line) :
    hasFinishedKey line = true ↔ s.key ≠ [] ∧ s.rest.head? = some ':' := by
  rw [hasFinishedKey, h.of_eq]
  rcases h.rest_head with hrest | hrest
  · simp [hrest]
  · obtain ⟨rest, hcons⟩ := List.head?_eq_some_iff.mp hrest
    simp [hcons]

end LineShape.IsCut

/-- Every line has one cut, which takes as much as any reading of the line, and from which follows
all that is told of the line. -/
theorem answers_from_cut (line : List Char) :
    ∃ s : LineShape, s.IsCut line ∧ (∀ t : LineShape, t.IsCut line → t = s) ∧
      (∀ t : LineShape, t.Fits line → t.UpTo s) ∧
      indentCount line = s.lead.length ∧ indentation line = s.lead ∧
      entryColumn? line =
        (if s.dash?.isSome then some (s.lead ++ s.dashText).length else none) ∧
      structuralKeys line =
        (if s.dash?.isSome then [itemsKey] else []) ++
          (if s.key = [] then [] else [String.ofList (trimEnd s.key)]) ∧
      (∀ token ∈ structuralKeys line, token ≠ "" ∧ ':' ∉ token.toList) ∧
      (hasFinishedKey line = true ↔ s.key ≠ [] ∧ s.rest.head? = some ':') := by
  have h := LineShape.isCut_of line
  exact ⟨LineShape.of line, h, fun t => h.unique, fun t => h.upTo, rfl, rfl, h.entryColumn?_eq,
    h.structuralKeys_eq, fun token => h.not_empty_of_mem_structuralKeys, h.hasFinishedKey_iff⟩

/-- A line with a wide blank in front, a second dash and a second colon. -/
def dashedLine : List Char := "\u3000\t- - a b : c: d".toList

/-- The parts of the line: the second dash is part of the key, the second colon of the rest. -/
def dashedCut : LineShape :=
  ⟨"\u3000\t".toList, some " ".toList, "- a b ".toList, ": c: d".toList⟩

/-- These parts are a cut. -/
private theorem isCut_dashedCut : dashedCut.IsCut dashedLine where
  text_eq := by decide
  lead_blank := List.all_eq_true.mp (by decide)
  gap_blank := by
    rintro gap ⟨⟩
    exact List.all_eq_true.mp (by decide)
  key_colon := by decide
  key_head_blank := by
    rintro c ⟨⟩
    decide
  key_head_dash := fun _ => rfl
  rest_head := by decide

/-- What is told of the line follows from these parts. -/
theorem answers_dashedLine :
    (LineShape.mk "\u3000".toList none [] "\t- - a b : c: d".toList).UpTo dashedCut ∧
      indentCount dashedLine = 2 ∧ entryColumn? dashedLine = some 4 ∧
      structuralKeys dashedLine = ["items", "- a b"] ∧ ':' ∉ "- a b".toList ∧
      hasFinishedKey dashedLine = true := by
  obtain ⟨s, -, hunique, hgreedy, hindent, -, hcolumn, hkeys, htokens, hfinished⟩ :=
    answers_from_cut dashedLine
  obtain rfl := hunique dashedCut isCut_dashedCut
  have hkeys : structuralKeys dashedLine = ["items", "- a b"] := hkeys.trans (by decide)
  have hshort : (LineShape.mk "\u3000".toList none [] "\t- - a b : c: d".toList).Fits dashedLine :=
    ⟨by decide, List.all_eq_true.mp (by decide), by simp, by decide⟩
  exact ⟨hgreedy _ hshort, hindent, hcolumn, hkeys, (htokens "- a b" (by simp [hkeys])).2,
    hfinished.mpr (by decide)⟩

end PrimitiveDesk.Layout
