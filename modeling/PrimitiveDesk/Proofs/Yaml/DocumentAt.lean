import PrimitiveDesk.Proofs.Yaml.DocumentRanges

/-!
# The document at an offset

Behind the start of a document and in front of the next start only two documents can contain an
offset: the one that started last, and the one before it, whose range may reach over the start
marker of the other. The first of the two is chosen by `Stream.documentAt?`. The ranges of the
documents of a text, and what is chosen, are put together in `Stream.ranges_meet_at_markers`.
-/

namespace PrimitiveDesk.Yaml.Stream

variable {s : Stream} {offset : Nat} {front back : List Document} {d : Document}

/-- The document with a number, if its range reaches to the offset. -/
def reaching? (s : Stream) (i offset : Nat) : Option (Nat × Document) :=
  (s.documents[i]?.filter fun d => offset ≤ d.range.stop).map fun d => (i, d)

/-! ## The first document that contains an offset -/

/-- Where no document has a property, none is found by it. -/
private theorem find?_zipIdx_eq_none {p : Document → Bool} {ds : List Document} (n : Nat)
    (h : ∀ d ∈ ds, p d = false) : (ds.zipIdx n).find? (fun q => p q.1) = none := by
  rw [List.find?_eq_none]
  intro q hq
  rw [h q.1 (List.fst_mem_of_mem_zipIdx hq)]
  exact Bool.false_ne_true

/-- `documentAt?` chooses the first document that contains the offset. -/
private theorem documentAt?_of_append (hs : s.documents = front ++ d :: back)
    (hfront : ∀ d' ∈ front, d'.contains offset = false) (hd : d.contains offset = true) :
    s.documentAt? offset = some (front.length, d) := by
  unfold documentAt?
  rw [hs, List.zipIdx_append, List.find?_append, find?_zipIdx_eq_none 0 hfront]
  simp [hd]

private theorem documentAt?_eq_none (h : ∀ d ∈ s.documents, d.contains offset = false) :
    s.documentAt? offset = none := by
  unfold documentAt?
  rw [find?_zipIdx_eq_none 0 h]
  rfl

private theorem contains_of_stop_lt (h : d.range.stop < offset) : d.contains offset = false := by
  simp only [Document.contains, Bool.and_eq_false_iff, decide_eq_false_iff_not]
  omega

private theorem contains_of_lt_start (h : offset < d.range.start) : d.contains offset = false := by
  simp only [Document.contains, Bool.and_eq_false_iff, decide_eq_false_iff_not]
  omega

private theorem contains_of_le (hstart : d.range.start ≤ offset) (hstop : offset ≤ d.range.stop) :
    d.contains offset = true := by
  simp [Document.contains, hstart, hstop]

private theorem reaching?_of_le {i : Nat} (hi : s.documents[i]? = some d)
    (h : offset ≤ d.range.stop) :
    s.reaching? i offset = some (i, d) := by
  simp [reaching?, hi, h]

private theorem reaching?_of_stop_lt {i : Nat} (hi : s.documents[i]? = some d)
    (h : d.range.stop < offset) : s.reaching? i offset = none := by
  simp [reaching?, hi, h]

/-! ## Documents that follow each other -/

section Chained

variable {cs : List Char} {ds : List Document} {i : Nat} {next : Document}

/-- A document stands between those in front of it and those behind it. -/
private theorem eq_append_of_getElem? (hi : ds[i]? = some d) :
    ds = ds.take i ++ d :: ds.drop (i + 1) ∧ (ds.take i).length = i := by
  obtain ⟨hlt, rfl⟩ := List.getElem?_eq_some_iff.mp hi
  refine ⟨?_, List.length_take_of_le (Nat.le_of_lt hlt)⟩
  rw [← List.drop_eq_getElem_cons hlt, List.take_append_drop]

/-- A document follows those in front of it. -/
private theorem follows_of_append (h : Chained cs ds.reverse) (hds : ds = front ++ d :: back) :
    Follows cs front.reverse d.range.start := by
  rw [hds, List.reverse_append, List.reverse_cons, List.append_assoc] at h
  exact h.of_append.1

/-- A document follows the one before it and those in front of that one. -/
private theorem follows_of_getElem? (h : Chained cs ds.reverse) (hi : ds[i]? = some d)
    (hnext : ds[i + 1]? = some next) : Follows cs (d :: (ds.take i).reverse) next.range.start := by
  obtain ⟨hsplit, -⟩ := eq_append_of_getElem? hnext
  have hfront : ds.take (i + 1) = ds.take i ++ [d] := by
    rw [List.take_add_one, hi]
    rfl
  rw [hfront] at hsplit
  have hfollows := follows_of_append h hsplit
  rwa [List.reverse_append] at hfollows

private theorem exists_getElem?_of_lt {j : Nat} (hi : ds[i]? = some d) (hj : j < i) :
    ∃ prior, ds[j]? = some prior := by
  obtain ⟨hlt, -⟩ := List.getElem?_eq_some_iff.mp hi
  exact ⟨ds[j], List.getElem?_eq_getElem (Nat.lt_trans hj hlt)⟩

/-- Documents that are not neighbours do not meet. -/
private theorem stop_lt_of_getElem? {j : Nat} {later : Document} (h : Chained cs ds.reverse)
    (hi : ds[i]? = some d) (hj : ds[j]? = some later) (hij : i + 1 < j) :
    d.range.stop < later.range.start := by
  obtain ⟨k, rfl⟩ := Nat.exists_eq_add_of_lt hij
  obtain ⟨prior, hprior⟩ := exists_getElem?_of_lt hj (Nat.lt_succ_self _)
  refine (follows_of_getElem? h hprior hj).earlier d (List.mem_reverse.mpr ?_)
  exact List.mem_of_getElem? ((List.getElem?_take_of_lt (by omega)).trans hi)

/-- If the first of some documents starts behind the offset, so do those behind it. -/
private theorem lt_start_of_head (h : Chained cs ds.reverse) (hds : ds = front ++ back)
    (hback : ∀ d ∈ back.head?, offset < d.range.start) : ∀ d ∈ back, offset < d.range.start := by
  have hstarts := List.pairwise_reverse.mp h.pairwise_start
  rw [hds] at hstarts
  have hstarts := (List.pairwise_append.mp hstarts).2.1
  cases back with
  | nil => simp
  | cons first back =>
    have hfirst := hback first rfl
    refine List.forall_mem_cons.mpr ⟨hfirst, fun d hd => ?_⟩
    exact Nat.lt_of_lt_of_le hfirst ((List.pairwise_cons.mp hstarts).1 d hd)

/-- `documentAt?` gives an offset that two neighbours contain to the first of them. -/
private theorem documentAt?_of_meet (h : Chained cs s.documents.reverse)
    (hi : s.documents[i]? = some d)
    (hnext : s.documents[i + 1]? = some next) (hstart : next.range.start ≤ offset)
    (hstop : offset ≤ d.range.stop) : s.documentAt? offset = some (i, d) := by
  obtain ⟨hsplit, hlength⟩ := eq_append_of_getElem? hi
  have hfollows := follows_of_getElem? h hi hnext
  have hfront (d' : Document) (hd' : d' ∈ s.documents.take i) : d'.contains offset = false :=
    contains_of_stop_lt (Nat.lt_of_lt_of_le
      (hfollows.earlier d' (List.mem_reverse.mpr hd')) hstart)
  have hd := contains_of_le (Nat.le_trans (hfollows.start_le d rfl) hstart) hstop
  rw [documentAt?_of_append hsplit hfront hd, hlength]

/-- Of the documents behind the start of document `i` and in front of the next start, `documentAt?`
chooses the first that reaches to the offset. -/
private theorem documentAt?_of_between (h : Chained cs s.documents.reverse)
    (hi : s.documents[i]? = some d) (hstart : d.range.start ≤ offset)
    (hnext : ∀ next, s.documents[i + 1]? = some next → offset < next.range.start) :
    s.documentAt? offset = (s.reaching? (i - 1) offset).or (s.reaching? i offset) := by
  obtain ⟨hsplit, hlength⟩ := eq_append_of_getElem? hi
  have hback : ∀ d' ∈ s.documents.drop (i + 1), d'.contains offset = false := by
    have hsplit' := (List.take_append_drop (i + 1) s.documents).symm
    intro d' hd'
    refine contains_of_lt_start (lt_start_of_head h hsplit' (fun first hfirst => ?_) d' hd')
    rw [List.head?_drop] at hfirst
    exact hnext first hfirst
  -- the document itself, if those in front of it do not contain the offset
  have hself (hfront : ∀ d' ∈ s.documents.take i, d'.contains offset = false) :
      s.documentAt? offset = s.reaching? i offset := by
    by_cases hstop : offset ≤ d.range.stop
    · rw [documentAt?_of_append hsplit hfront (contains_of_le hstart hstop), hlength,
        reaching?_of_le hi hstop]
    · have hlt := Nat.lt_of_not_le hstop
      rw [reaching?_of_stop_lt hi hlt]
      refine documentAt?_eq_none ?_
      rw [hsplit]
      exact List.forall_mem_append.mpr
        ⟨hfront, List.forall_mem_cons.mpr ⟨contains_of_stop_lt hlt, hback⟩⟩
  -- only the document before can reach to the offset, as those in front of it do not meet this one
  cases i with
  | zero => rw [hself (by simp), Nat.zero_sub, Option.or_self]
  | succ j =>
    obtain ⟨prior, hprior⟩ := exists_getElem?_of_lt hi (Nat.lt_succ_self j)
    rw [Nat.add_sub_cancel]
    by_cases hstop : offset ≤ prior.range.stop
    · rw [documentAt?_of_meet h hprior hi hstart hstop, reaching?_of_le hprior hstop]
      rfl
    · have hlt := Nat.lt_of_not_le hstop
      rw [reaching?_of_stop_lt hprior hlt, Option.none_or]
      refine hself ?_
      rw [List.take_add_one, hprior]
      refine List.forall_mem_append.mpr ⟨fun d' hd' => ?_, fun d' hd' => ?_⟩
      · have hearlier := (follows_of_getElem? h hprior hi).earlier d' (List.mem_reverse.mpr hd')
        exact contains_of_stop_lt (Nat.lt_of_lt_of_le hearlier hstart)
      · rw [List.mem_singleton.mp hd']
        exact contains_of_stop_lt hlt

end Chained

/-- The ranges of the documents of a text are in order, and meet only at start markers: a document
that another one follows ends with its end marker, or with the start marker of the other. Of the
documents whose range contains an offset the first is chosen, so that an offset on a shared marker
belongs to the document in front of it. -/
theorem ranges_meet_at_markers (text : String) :
    (∀ i d next, (ofText text).documents[i]? = some d →
      (ofText text).documents[i + 1]? = some next →
      d.range.start ≤ next.range.start ∧
        (d.EndsMarked text.toList ∧ d.range.stop ≤ next.range.start ∨
          WrittenAt text.toList next.range.start startMarker ∧
            d.range.stop = next.range.start + 3 ∧
            ∀ offset, next.range.start ≤ offset → offset ≤ next.range.start + 3 →
              (ofText text).documentAt? offset = some (i, d))) ∧
    (∀ i j d later, (ofText text).documents[i]? = some d →
      (ofText text).documents[j]? = some later → i + 1 < j → d.range.stop < later.range.start) ∧
    (∀ i d offset, (ofText text).documents[i]? = some d → d.range.start ≤ offset →
      (∀ next, (ofText text).documents[i + 1]? = some next → offset < next.range.start) →
      (ofText text).documentAt? offset =
        ((ofText text).reaching? (i - 1) offset).or ((ofText text).reaching? i offset)) ∧
    ∀ offset, (∀ d ∈ (ofText text).documents.head?, offset < d.range.start) →
      (ofText text).documentAt? offset = none := by
  have h := chained_ofText text
  refine ⟨fun i d next hi hnext => ?_, fun i j d later => stop_lt_of_getElem? h,
    fun i d offset => documentAt?_of_between h, fun offset hhead => ?_⟩
  · have hfollows := follows_of_getElem? h hi hnext
    refine ⟨hfollows.start_le d rfl, ?_⟩
    obtain hends | ⟨hwritten, hstop⟩ := hfollows.last d rfl
    · exact .inl hends
    · -- the marker is shared, and belongs to the document in front
      refine .inr ⟨hwritten, hstop, fun offset hstart hle => ?_⟩
      exact documentAt?_of_meet h hi hnext hstart (hstop ▸ hle)
  · refine documentAt?_eq_none fun d hd => contains_of_lt_start ?_
    exact lt_start_of_head h (List.nil_append _).symm hhead d hd

/-- Two documents share the start marker of the second, and an offset on it selects the first. -/
theorem marker_selects_previous :
    (ofText "a: 1\n---\nb: 2\n").documents.map (·.range) = [⟨0, 4, 8⟩, ⟨5, 13, 14⟩] ∧
      ((ofText "a: 1\n---\nb: 2\n").documentAt? 6).map (·.1) = some 0 := by
  decide +kernel

end PrimitiveDesk.Yaml.Stream
