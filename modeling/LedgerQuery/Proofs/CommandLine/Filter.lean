import LedgerQuery.CommandLine.Command
import LedgerQuery.Proofs.Descriptor.Filters

/-!
# Filters in arguments

Every filter can be given in an argument. The value of an argument is the scalar that its text
spells, the same that a descriptor in JSON would have, and a text that spells no scalar stands for
itself. What is no filter has no equals sign or nothing in front of it.

* `Scalar.ofText_of_spelling`, `Scalar.ofText_of_not_spelling`: what a value stands for.
* `Filter.parse_append`, `Filter.parse_of_not_mem`: the result, by the first equals sign.
* `CommandForm.latest_descriptor`: of filters on one column, arguments keep the last one.
* `Filter.parse_faithful`: what an argument is read as, and when it is no filter.
-/

namespace LedgerQuery

open Json (Latest)

/-! ### Values -/

theorem Scalar.ofText_of_spelling {s : String} {v : Scalar} (h : Scalar.Spelling s.toList v) :
    Scalar.ofText s = v := by
  have hread := (Scalar.read_iff_of_trimmed Json.maxDepth h.trimChars).mpr h
  rw [String.ofList_toList] at hread
  rw [Scalar.ofText, hread]

theorem Scalar.ofText_of_not_spelling {s : String} (htrim : Text.trimChars s.toList = s.toList)
    (h : ∀ v, ¬ Scalar.Spelling s.toList v) : Scalar.ofText s = .text s := by
  rw [Scalar.ofText]
  split
  · next v hread =>
    rw [← String.ofList_toList (s := s)] at hread
    exact absurd ((Scalar.read_iff_of_trimmed Json.maxDepth htrim).mp hread) (h v)
  · rfl

/-! ### Filters of a command -/

namespace CommandForm

theorem filters_foldl {α : Type} (step : Descriptor → α → Descriptor)
    (h : ∀ d a, (step d a).filters = d.filters) (as : List α) (d : Descriptor) :
    (as.foldl step d).filters = d.filters := by
  induction as generalizing d with
  | nil => rfl
  | cons a as ih => rw [List.foldl_cons, ih, h]

/-- The filters of a descriptor that options build up are those that are left of the arguments:
where a column is given more than once, its last value in its first place. -/
theorem latest_descriptor (o : Arguments.Options) (entity : String) :
    Latest ((o.values "filter").filterMap fun f => (Filter.parse f).toOption)
      (descriptor o entity).filters := by
  let metrics := (o.values "metric").foldl (fun d m => d.withMetric (.ofName m))
    ({ entity } : Descriptor)
  let given := (o.values "filter").filterMap fun f => (Filter.parse f).toOption
  have hempty : metrics.filters = [] :=
    filters_foldl (fun d m => d.withMetric (.ofName m)) (fun _ _ => rfl) _ _
  have hfilters : (descriptor o entity).filters = (metrics.withFilters given).filters := by
    rw [← filters_foldl (fun d a => d.withAggregation (.ofName a)) (fun _ _ => rfl)
      (o.values "aggregation") (metrics.withFilters given), descriptor]
    split <;> rfl
  rw [hfilters, Descriptor.withFilters_eq hempty]
  exact Json.latest_collect given

end CommandForm

namespace Filter

/-! ### Columns -/

/-- The first equals sign ends the column. -/
theorem parse_append {c : String} (hc : '=' ∉ c.toList) (w : String) :
    parse (c ++ "=" ++ w) =
      if Text.trim c = "" then .error .noColumn
      else .ok (Text.trim c, Scalar.ofText (Text.trim w)) := by
  have hchars : (c ++ "=" ++ w).toList = c.toList ++ '=' :: w.toList := by simp
  have hfront : ∀ a ∈ c.toList, decide (a ≠ '=') = true :=
    fun a ha => decide_eq_true fun h => hc (h ▸ ha)
  have htake : (c ++ "=" ++ w).toList.takeWhile (· ≠ '=') = c.toList := by
    rw [hchars, List.takeWhile_append_of_pos hfront]
    exact List.append_nil c.toList
  have hdrop : (c ++ "=" ++ w).toList.dropWhile (· ≠ '=') = '=' :: w.toList := by
    rw [hchars, List.dropWhile_append_of_pos hfront]
    rfl
  have hempty : Text.trim c = "" ↔ Text.trimChars c.toList = [] := by
    rw [Text.trim, ← String.toList_inj, String.toList_ofList]
    rfl
  rw [parse, htake, hdrop]
  simp only [hempty]
  rfl

theorem parse_of_not_mem {s : String} (h : '=' ∉ s.toList) : parse s = .error .noSign := by
  have hdrop : s.toList.dropWhile (· ≠ '=') = [] := by
    rw [List.dropWhile_eq_nil_iff]
    exact fun a ha => decide_eq_true fun heq => h (heq ▸ ha)
  rw [parse, hdrop]

/-- A text with an equals sign is cut at the first one. -/
theorem exists_append {s : String} (h : '=' ∈ s.toList) :
    ∃ c w, s = c ++ "=" ++ w ∧ '=' ∉ c.toList := by
  obtain ⟨before, behind, hs, hbefore⟩ := List.eq_append_cons_of_mem h
  refine ⟨String.ofList before, String.ofList behind, ?_, by rwa [String.toList_ofList]⟩
  rw [← String.toList_inj, hs]
  simp

/-- An argument is no filter exactly if it has no equals sign or nothing in front of the first
one. -/
theorem parse_error_iff (s : String) :
    (parse s = .error .noSign ↔ '=' ∉ s.toList) ∧
      (parse s = .error .noColumn ↔
        ∃ c w, s = c ++ "=" ++ w ∧ '=' ∉ c.toList ∧ Text.trim c = "") := by
  refine ⟨⟨fun h hs => ?_, parse_of_not_mem⟩, fun h => ?_, ?_⟩
  · obtain ⟨c, w, rfl, hc⟩ := exists_append hs
    rw [parse_append hc] at h
    split at h <;> cases h
  · by_cases hs : '=' ∈ s.toList
    · obtain ⟨c, w, rfl, hc⟩ := exists_append hs
      rw [parse_append hc] at h
      split at h
      · next htrim => exact ⟨c, w, rfl, hc, htrim⟩
      · cases h
    · rw [parse_of_not_mem hs] at h
      cases h
  · rintro ⟨c, w, rfl, hc, htrim⟩
    rw [parse_append hc, if_pos htrim]

/-! ### Whole arguments -/

/-- An argument gives every filter there is: a column in front of the first equals sign, and behind
it the scalar in JSON. Whatever stands behind the sign, its value is the scalar that it spells, the
same that a descriptor with this text as the value of a filter has, and it is the text itself if it
spells none. -/
theorem parse_faithful :
    (∀ (c : String) (v : Scalar), '=' ∉ c.toList → Text.isBlankText c = false → v.Writable →
      parse (c ++ "=" ++ v.toJson.render) = .ok (Text.trim c, v)) ∧
    (∀ c w : String, '=' ∉ c.toList → Text.isBlankText c = false →
      ((∀ v, ¬ Scalar.Spelling (Text.trim w).toList v) →
        parse (c ++ "=" ++ w) = .ok (Text.trim c, .text (Text.trim w))) ∧
      (Scalar.Lookalike (Text.trim w).toList →
        parse (c ++ "=" ++ w) = .ok (Text.trim c, .text (Text.trim w))) ∧
      ∀ v, Scalar.Spelling (Text.trim w).toList v →
        parse (c ++ "=" ++ w) = .ok (Text.trim c, v) ∧
        ∀ (d : Descriptor) (column : String), d.Writable → d.filters = [] →
          Descriptor.parse (d.textWith [(column, (Text.trim w).toList)]) =
            .ok (d.withFilter column v)) ∧
    ∀ s : String,
      (parse s = .error .noSign ↔ '=' ∉ s.toList) ∧
      (parse s = .error .noColumn ↔
        ∃ c w, s = c ++ "=" ++ w ∧ '=' ∉ c.toList ∧ Text.trim c = "") := by
  have hparse : ∀ (c w : String), '=' ∉ c.toList → Text.isBlankText c = false →
      parse (c ++ "=" ++ w) = .ok (Text.trim c, Scalar.ofText (Text.trim w)) := by
    intro c w hc hblank
    have hcolumn : Text.trim c ≠ "" := by
      rw [ne_eq, Text.trim_eq_empty_iff, hblank]
      exact Bool.false_ne_true
    rw [parse_append hc, if_neg hcolumn]
  have htrimmed : ∀ w : String, Text.trimChars (Text.trim w).toList = (Text.trim w).toList := by
    intro w
    rw [Text.trim, String.toList_ofList, Text.trimChars_trimChars]
  have htext : ∀ w : String, (∀ v, ¬ Scalar.Spelling (Text.trim w).toList v) →
      Scalar.ofText (Text.trim w) = .text (Text.trim w) :=
    fun w h => Scalar.ofText_of_not_spelling (htrimmed w) h
  refine ⟨fun c v hc hblank hv => ?_, fun c w hc hblank => ⟨fun h => ?_, fun h => ?_, fun v h =>
    ⟨?_, fun d column hd hempty => ?_⟩⟩, parse_error_iff⟩
  · have hspelling := Scalar.spelling_chars hv
    have hrender : Text.trim v.toJson.render = v.toJson.render := by
      rw [Text.trim, Json.render, String.toList_ofList, hspelling.trimChars]
    rw [hparse c _ hc hblank, hrender, Scalar.ofText_of_spelling (v := v)]
    rwa [Json.render, String.toList_ofList]
  · rw [hparse c w hc hblank, htext w h]
  · rw [hparse c w hc hblank, htext w h.not_spelling]
  · rw [hparse c w hc hblank, Scalar.ofText_of_spelling h]
  · exact Descriptor.parse_textWith_single hd hempty h

/-- A column with blanks around it, a number, a number with a zero in front, and a string in which
a digit is written by its code. -/
theorem parse_faithful_account :
    parse " account_id =\"12\"" = .ok ("account_id", .text "12") ∧
      parse " account_id = 00012" = .ok ("account_id", .text "00012") ∧
      (parse " account_id =\"1\\u0032\" " = .ok ("account_id", .text "12") ∧
        Descriptor.parse "\x7b\"entity\":\"loans\",\"filters\":\x7b\"id\":\"1\\u0032\"\x7d\x7d" =
          .ok (({ entity := "loans" } : Descriptor).withFilter "id" (.text "12"))) := by
  have hcolumn : '=' ∉ " account_id ".toList := by decide
  have hblank : Text.isBlankText " account_id " = false := by decide
  obtain ⟨hwritten, hread, -⟩ := parse_faithful
  have hcode : Scalar.Spelling (Text.trim "\"1\\u0032\" ").toList (.text "12") :=
    Scalar.spelling_of_toOption (by decide) (by decide +kernel)
  have hzero : Scalar.Lookalike (Text.trim " 00012").toList :=
    .zero false (by decide) ['0', '1', '2']
  refine ⟨?_, ?_, ?_, ?_⟩
  · exact hwritten " account_id " (.text "12") hcolumn hblank trivial
  · exact (hread " account_id " " 00012" hcolumn hblank).2.1 hzero
  · exact ((hread " account_id " "\"1\\u0032\" " hcolumn hblank).2.2 _ hcode).1
  · exact ((hread " account_id " "\"1\\u0032\" " hcolumn hblank).2.2 _ hcode).2
      { entity := "loans" } "id" (Descriptor.writable_new "loans") rfl

end Filter

end LedgerQuery
