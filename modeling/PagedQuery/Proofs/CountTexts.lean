import PagedQuery.Proofs.Keywords
import PagedQuery.Proofs.TextPages

/-!
# Counts of query texts

The count of a query text is taken from the stretch of the text that its only `from` and
its `order by` delimit, and from nothing else.  Cutting this stretch out and writing a
select clause before it makes no keyword and loses none but the `order by`, so the count of
a count is the count itself.

Main results:

- Theorem `countParts_iff`: the stretch that is counted, told by the keywords of the text.
- Theorem `uncountable_of_error`: what is wrong with a text that has no count.
- Theorem `countText_exact`: which texts have a count, and what it is.
-/

namespace PagedQuery

open Text

/-! ## Texts with a count -/

/-- A text with one `from` and no `order by` but behind it, and there at most one. -/
structure IsCountable (cs : List Char) : Prop where
  rows : ∃! i, StandsAt IsFrom cs i
  unique : ∀ i j, StandsAt IsOrderBy cs i → StandsAt IsOrderBy cs j → i = j
  behind : ∀ i j, StandsAt IsFrom cs i → StandsAt IsOrderBy cs j → i < j

/-- What is wrong with a text without a count, by the report of it: there is no `from`, one
of the keywords is there twice, or the only `order by` stands before the only `from`. -/
inductive Uncountable (cs : List Char) : CountRejection → Prop
  | noFrom : (∀ i, ¬ StandsAt IsFrom cs i) → Uncountable cs .noFrom
  | nestedFrom {i j : Nat} : StandsAt IsFrom cs i → StandsAt IsFrom cs j → i ≠ j →
      Uncountable cs .nested
  | nestedOrderBy {i j k : Nat} : StandsAt IsFrom cs i → StandsAt IsOrderBy cs j →
      StandsAt IsOrderBy cs k → j ≠ k → Uncountable cs .nested
  | orderByFirst {i j : Nat} : (∀ k, StandsAt IsFrom cs k ↔ k = i) →
      (∀ k, StandsAt IsOrderBy cs k ↔ k = j) → j < i → Uncountable cs .orderByFirst

/-- A text in three parts: the second one starts with a `from`, and the third one with an
`order by`, unless the text has none and ends there. -/
structure IsCut (cs head body tail : List Char) : Prop where
  whole : cs = head ++ body ++ tail
  start : StandsAt IsFrom cs head.length
  stop : (tail = [] ∧ ∀ i, ¬ StandsAt IsOrderBy cs i) ∨
    StandsAt IsOrderBy cs (head ++ body).length

/-- A text with something wrong has no count. -/
theorem Uncountable.not_isCountable {cs : List Char} {rejection : CountRejection}
    (h : Uncountable cs rejection) : ¬ IsCountable cs := by
  intro hcs
  cases h with
  | noFrom hnone =>
      obtain ⟨i, hi, -⟩ := hcs.rows
      exact hnone i hi
  | nestedFrom hi hj hne => exact hne (hcs.rows.unique hi hj)
  | nestedOrderBy _ hj hk hne => exact hne (hcs.unique _ _ hj hk)
  | @orderByFirst i j hfrom horder hlt =>
      have hbehind := hcs.behind i j ((hfrom i).2 rfl) ((horder j).2 rfl)
      exact absurd hlt (Nat.lt_asymm hbehind)

/-! ## The positions of the keywords -/

/-- A list without repetitions has no member, one, or two that differ. -/
theorem nodup_cases (xs : List Nat) (h : xs.Nodup) :
    xs = [] ∨ (∃ i, xs = [i]) ∨ ∃ i ∈ xs, ∃ j ∈ xs, i ≠ j := by
  match xs, h with
  | [], _ => exact .inl rfl
  | [i], _ => exact .inr (.inl ⟨i, rfl⟩)
  | i :: j :: xs, h =>
      have hne : i ≠ j := fun hsame => (List.nodup_cons.1 h).1 (hsame ▸ List.mem_cons_self)
      exact .inr (.inr ⟨i, List.mem_cons_self, j,
        List.mem_cons_of_mem i List.mem_cons_self, hne⟩)

/-- A list without repetitions is told by its only member. -/
theorem eq_singleton_of_nodup {xs : List Nat} (h : xs.Nodup) {i : Nat} (hi : i ∈ xs)
    (honly : ∀ j ∈ xs, j = i) : xs = [i] := by
  have hmem : ∀ j, j ∈ xs ↔ j ∈ [i] := fun j => by
    rw [List.mem_singleton]
    exact ⟨honly j, fun hsame => hsame ▸ hi⟩
  exact List.perm_singleton.1 ((List.perm_ext_iff_of_nodup h (List.nodup_singleton i)).2 hmem)

section

variable {keyword : List Char → Prop} {cs : List Char} {positions : List Nat}

/-- Where no position of a keyword is found, it does not stand in the text. -/
theorem not_standsAt_of_nil (hmem : ∀ {j}, j ∈ positions ↔ StandsAt keyword cs j)
    (h : positions = []) (j : Nat) : ¬ StandsAt keyword cs j := by
  rw [← hmem, h]
  exact List.not_mem_nil

/-- The only position that is found of a keyword is the only one where it stands. -/
theorem standsAt_iff_of_singleton (hmem : ∀ {j}, j ∈ positions ↔ StandsAt keyword cs j)
    {i : Nat} (h : positions = [i]) (j : Nat) : StandsAt keyword cs j ↔ j = i := by
  rw [← hmem, h, List.mem_singleton]

end

/-- Something is wrong with a text that has no count. -/
theorem uncountable_of_error {cs : List Char} {rejection : CountRejection}
    (h : countChars cs = .error rejection) : Uncountable cs rejection := by
  unfold countChars at h
  split at h
  · rename_i hfrom
    cases h
    exact .noFrom (not_standsAt_of_nil mem_fromStarts hfrom)
  · cases h
  · rename_i start stop hfrom horder
    split at h
    · rename_i hlt
      cases h
      exact .orderByFirst (standsAt_iff_of_singleton mem_fromStarts hfrom)
        (standsAt_iff_of_singleton mem_orderByStarts horder) hlt
    · cases h
  · rename_i hnone hone hboth
    cases h
    rcases nodup_cases (fromStarts cs) keywordStarts_nodup with
      hfrom | ⟨i, hfrom⟩ | ⟨i, hi, j, hj, hne⟩
    · exact (hnone hfrom).elim
    · rcases nodup_cases (orderByStarts cs) keywordStarts_nodup with
        horder | ⟨j, horder⟩ | ⟨j, hj, k, hk, hne⟩
      · exact (hone i hfrom horder).elim
      · exact (hboth i j hfrom horder).elim
      · have hi := (standsAt_iff_of_singleton mem_fromStarts hfrom i).2 rfl
        exact .nestedOrderBy hi (mem_orderByStarts.1 hj) (mem_orderByStarts.1 hk) hne
    · exact .nestedFrom (mem_fromStarts.1 hi) (mem_fromStarts.1 hj) hne

/-! ## What is counted -/

section

variable {text count : String} {head body tail : List Char}

/-- A text in parts has the count of its parts. -/
theorem countText_of_parts (h : CountParts text count head body tail) :
    countText text = .ok count := by
  have hchars : countChars text.toList = .ok count.toList := by
    rw [countChars, h.start, h.counted, h.whole]
    rcases h.stop with ⟨hnone, rfl⟩ | hstop
    · rw [← h.whole, hnone, h.whole, List.append_nil]
      simp only [List.drop_left]
    · rw [← h.whole, hstop, h.whole]
      have hbehind : ¬ (head ++ body).length < head.length := by
        rw [List.length_append]
        omega
      simp only [if_neg hbehind, List.take_left, List.drop_left]
  rw [countText, hchars]
  exact congrArg Except.ok String.ofList_toList

/-- The parts of a text with a count are told by its keywords. -/
theorem countParts_iff : CountParts text count head body tail ↔
    IsCountable text.toList ∧ IsCut text.toList head body tail ∧
      count.toList = countSelect ++ body := by
  constructor
  · intro h
    have hfrom := standsAt_iff_of_singleton mem_fromStarts h.start
    have hstart := (hfrom head.length).2 rfl
    have hrows : ∃! i, StandsAt IsFrom text.toList i := ⟨head.length, hstart, fun i => (hfrom i).1⟩
    rcases h.stop with ⟨hnone, htail⟩ | hstop
    · have horder := not_standsAt_of_nil mem_orderByStarts hnone
      exact ⟨⟨hrows, fun i _ hi => (horder i hi).elim, fun _ j _ hj => (horder j hj).elim⟩,
        ⟨h.whole, hstart, .inl ⟨htail, horder⟩⟩, h.counted⟩
    · have horder := standsAt_iff_of_singleton mem_orderByStarts hstop
      have hlast := (horder (head ++ body).length).2 rfl
      refine ⟨⟨hrows, fun i j hi hj => ?_, fun i j hi hj => ?_⟩,
        ⟨h.whole, hstart, .inr hlast⟩, h.counted⟩
      · rw [(horder i).1 hi, (horder j).1 hj]
      · -- The `order by` is not behind its place and not at the place of the `from`.
        have hne := hi.ne hj
        rw [(hfrom i).1 hi, (horder j).1 hj, List.length_append] at hne ⊢
        omega
  · rintro ⟨hcountable, hcut, hcounted⟩
    refine ⟨hcut.whole, hcounted, ?_, ?_⟩
    · exact eq_singleton_of_nodup keywordStarts_nodup (mem_fromStarts.2 hcut.start)
        fun i hi => hcountable.rows.unique (mem_fromStarts.1 hi) hcut.start
    · rcases hcut.stop with ⟨htail, hnone⟩ | hstop
      · refine .inl ⟨List.eq_nil_iff_forall_not_mem.2 fun i hi => ?_, htail⟩
        exact hnone i (mem_orderByStarts.1 hi)
      · exact .inr (eq_singleton_of_nodup keywordStarts_nodup (mem_orderByStarts.2 hstop)
          fun i hi => hcountable.unique _ _ (mem_orderByStarts.1 hi) hstop)

/-- The second part of a text with a count is there, and no word is cut at its ends. -/
theorem IsCut.ends {cs : List Char} (hcountable : IsCountable cs)
    (h : IsCut cs head body tail) :
    EndsApart head ∧ Begins IsFrom body ∧ (EndsApart body ∨ StartsApart tail) := by
  have hstart := h.start
  rw [h.whole, List.append_assoc, standsAt_length] at hstart
  obtain ⟨hhead, hfrom⟩ := hstart
  rcases h.stop with ⟨rfl, -⟩ | hstop
  · exact ⟨hhead, by rwa [List.append_nil] at hfrom, .inr startsApart_nil⟩
  · have hne : body ≠ [] := by
      rintro rfl
      have hlt := hcountable.behind _ _ h.start hstop
      rw [List.append_nil] at hlt
      exact Nat.lt_irrefl _ hlt
    have hbody : EndsApart body := by
      rw [h.whole, standsAt_length] at hstop
      exact hstop.1.of_append
    exact ⟨hhead, hfrom.narrow_isFrom hne (.inr hbody), .inl hbody⟩

/-! ## The count of a count -/

theorem ofList_countSelect : String.ofList countSelect = "select count(*) " :=
  String.ofList_toList

theorem endsApart_countSelect : EndsApart countSelect := by
  have hselect : countSelect = "select count(*)".toList ++ [' '] := by decide
  rw [hselect, endsApart_concat]
  decide +kernel

/-- No keyword stands in the select clause of a count: the second letter of the keywords is
not in it, nor at the start of what is counted. -/
theorem StandsAt.behind_countSelect {keyword : List Char → Prop}
    (hkey : ∀ {cs}, Begins keyword cs → ∃ c rest, cs = c :: 'r' :: rest)
    (hbody : Begins IsFrom body) {i : Nat} (h : StandsAt keyword (countSelect ++ body) i) :
    countSelect.length ≤ i := by
  obtain ⟨before, after, hcs, rfl, -, hafter⟩ := h
  obtain ⟨c, rest, rfl⟩ := hkey hafter
  obtain ⟨body, rfl⟩ := hbody.cons_isFrom
  by_contra hlt
  have hshort : (before ++ [c, 'r']).length ≤ (countSelect ++ ['f']).length := by
    simp only [List.length_append, List.length_cons, List.length_nil]
    omega
  have hstart : before ++ [c, 'r'] <+: countSelect ++ 'f' :: 'r' :: body :=
    ⟨rest, by rw [hcs, List.append_assoc, List.cons_append, List.cons_append, List.nil_append]⟩
  have hselect : countSelect ++ ['f'] <+: countSelect ++ 'f' :: 'r' :: body :=
    ⟨'r' :: body, by rw [List.append_assoc, List.singleton_append]⟩
  have hmem : 'r' ∈ countSelect ++ ['f'] :=
    (List.prefix_of_prefix_length_le hstart hselect hshort).subset (by simp)
  exact absurd hmem (by decide)

/-- A keyword of a count is one of the text, at its place in what is counted. -/
theorem StandsAt.of_count {keyword : List Char → Prop} {cs : List Char}
    (hword : EndsInWord keyword)
    (hkey : ∀ {cs}, Begins keyword cs → ∃ c rest, cs = c :: 'r' :: rest)
    (hcountable : IsCountable cs) (hcut : IsCut cs head body tail) {i : Nat}
    (h : StandsAt keyword (countSelect ++ body) i) :
    countSelect.length ≤ i ∧
      StandsAt keyword cs (head.length + (i - countSelect.length)) := by
  obtain ⟨hhead, hbody, hends⟩ := hcut.ends hcountable
  have hi := h.behind_countSelect hkey hbody
  rw [hcut.whole]
  exact ⟨hi, (h.narrow hi).widen hword hhead hends⟩

/-- The only keyword of a count is the `from` behind its select clause. -/
theorem IsCut.count_keywords {cs : List Char} (hcountable : IsCountable cs)
    (hcut : IsCut cs head body tail) :
    (∀ i, StandsAt IsFrom (countSelect ++ body) i ↔ i = countSelect.length) ∧
      ∀ i, ¬ StandsAt IsOrderBy (countSelect ++ body) i := by
  obtain ⟨-, hbody, -⟩ := hcut.ends hcountable
  refine ⟨fun i => ⟨fun h => ?_, ?_⟩, fun i h => ?_⟩
  · obtain ⟨hi, hstands⟩ := h.of_count endsInWord_isFrom
      (fun h => ⟨'f', h.cons_isFrom⟩) hcountable hcut
    have hsame := hcountable.rows.unique hstands hcut.start
    omega
  · rintro rfl
    exact standsAt_length.2 ⟨endsApart_countSelect, hbody⟩
  · obtain ⟨hi, hstands⟩ := h.of_count endsInWord_isOrderBy
      (fun h => ⟨'o', h.cons_isOrderBy⟩) hcountable hcut
    have hlt := h.lt endsInWord_isOrderBy
    rw [List.length_append] at hlt
    rcases hcut.stop with ⟨-, hnone⟩ | hstop
    · exact hnone _ hstands
    · -- The `order by` of the text stands behind all that is counted.
      have hsame := hcountable.unique _ _ hstands hstop
      rw [List.length_append] at hsame
      omega

/-- A count has a count itself, of all that stands behind its select clause. -/
theorem IsCut.count_isCut {cs : List Char} (hcountable : IsCountable cs)
    (hcut : IsCut cs head body tail) :
    IsCountable (countSelect ++ body) ∧ IsCut (countSelect ++ body) countSelect body [] := by
  obtain ⟨hfrom, horder⟩ := hcut.count_keywords hcountable
  have hstart := (hfrom countSelect.length).2 rfl
  constructor
  · exact ⟨⟨countSelect.length, hstart, fun i => (hfrom i).1⟩,
      fun i _ hi => (horder i hi).elim, fun _ j _ hj => (horder j hj).elim⟩
  · exact ⟨(List.append_nil _).symm, hstart, .inl ⟨rfl, horder⟩⟩

end

/-- Which query texts have a count, and what it is.  A text has a count exactly when it has
one `from` and at most one `order by`, behind it; another text is reported for what is wrong
with it.  The count is a select clause and what stands from the `from` up to the `order by`,
whatever comes before and behind.  Its only keyword is its `from`, and it is its own
count. -/
theorem countText_exact (text : String) :
    ((∃ count, countText text = .ok count) ↔ IsCountable text.toList) ∧
      (¬ IsCountable text.toList → ∃ rejection, Uncountable text.toList rejection ∧
        countText text = .error (.unsupportedQuery rejection.message text)) ∧
      ∀ count, countText text = .ok count →
        (∃ head body tail, IsCut text.toList head body tail ∧
          count = "select count(*) " ++ .ofList body ∧
          ∀ other head' tail', IsCountable other.toList → IsCut other.toList head' body tail' →
            countText other = .ok count) ∧
        (∃! i, StandsAt IsFrom count.toList i) ∧
        (∀ i, ¬ StandsAt IsOrderBy count.toList i) ∧
        countText count = .ok count := by
  have hcountable : ∀ count, countText text = .ok count → IsCountable text.toList := by
    intro count h
    obtain ⟨head, body, tail, hparts⟩ := countText_parts h
    exact (countParts_iff.1 hparts).1
  have hrejected : ∀ failure, countText text = .error failure →
      ∃ rejection, Uncountable text.toList rejection ∧
        countText text = .error (.unsupportedQuery rejection.message text) := by
    intro failure h
    cases hchars : countChars text.toList with
    | ok cs =>
        rw [countText, hchars] at h
        cases h
    | error rejection =>
        refine ⟨rejection, uncountable_of_error hchars, ?_⟩
        rw [countText, hchars]
  refine ⟨⟨fun ⟨count, h⟩ => hcountable count h, fun hcs => ?_⟩, fun hcs => ?_, ?_⟩
  · cases h : countText text with
    | ok count => exact ⟨count, rfl⟩
    | error failure =>
        obtain ⟨_, hwrong, -⟩ := hrejected failure h
        exact absurd hcs hwrong.not_isCountable
  · cases h : countText text with
    | ok count => exact absurd (hcountable count h) hcs
    | error failure => exact h ▸ hrejected failure h
  · intro count h
    obtain ⟨head, body, tail, hparts⟩ := countText_parts h
    obtain ⟨hcs, hcut, hcounted⟩ := countParts_iff.1 hparts
    have horder := (hcut.count_keywords hcs).2
    obtain ⟨hcs', hcut'⟩ := hcut.count_isCut hcs
    rw [← hcounted] at horder hcs' hcut'
    refine ⟨⟨head, body, tail, hcut, ?_, fun other head' tail' hother hcut' => ?_⟩,
      hcs'.rows, horder, countText_of_parts (countParts_iff.2 ⟨hcs', hcut', hcounted⟩)⟩
    · calc count = .ofList (countSelect ++ body) := by rw [← hcounted, String.ofList_toList]
        _ = .ofList countSelect ++ .ofList body := String.ofList_append
        _ = "select count(*) " ++ .ofList body := by rw [ofList_countSelect]
    · exact countText_of_parts (countParts_iff.2 ⟨hother, hcut', hcounted⟩)

end PagedQuery
