/-!
# Texts that can be read back

A text is written piece by piece, and what is written can be told from it again as long as no
piece is mistaken for the beginning of another. What may follow a piece is part of the condition:
a name ends where no character of a name follows.

* `Readable`: two written pieces with admissible texts behind them are equal only if the pieces are.
* `Readable.of_read`: pieces that a reader takes back.
* `readable_of_stops`: pieces that end at the first character of a class.
* `Readable.pair`, `Readable.chain`, `Readable.part`: pieces one after another, any number of them.
-/

namespace LedgerQuery.Text

variable {α β : Type} {good : α → Prop} {fine : β → Prop} {f : α → List Char} {g : β → List Char}
  {after before : List Char → Prop}

/-- Among the good ones, what was written can be told from the text if an admissible text follows.
-/
def Readable (good : α → Prop) (f : α → List Char) (after : List Char → Prop) : Prop :=
  ∀ a b t u, good a → good b → after t → after u → f a ++ t = f b ++ u → a = b ∧ t = u

/-- A text whose first character, if there is one, belongs to a class. -/
def StartsWith (stop : Char → Bool) (t : List Char) : Prop :=
  ∀ c ∈ t.head?, stop c = true

theorem StartsWith.mono {p q : Char → Bool} (h : ∀ c, p c = true → q c = true) {t : List Char}
    (ht : StartsWith p t) : StartsWith q t :=
  fun c hc => h c (ht c hc)

theorem startsWith_nil {stop : Char → Bool} : StartsWith stop [] := by
  simp [StartsWith]

theorem startsWith_cons {stop : Char → Bool} {c : Char} {t : List Char} :
    StartsWith stop (c :: t) ↔ stop c = true := by
  simp [StartsWith]

/-- What a reader takes back can be told from the text. -/
theorem Readable.of_read (read : List Char → Option (α × List Char))
    (h : ∀ a t, good a → after t → read (f a ++ t) = some (a, t)) : Readable good f after := by
  intro a b t u ha hb ht hu he
  have hr := h a t ha ht
  rw [he, h b u hb hu, Option.some_inj, Prod.mk.injEq] at hr
  exact ⟨hr.1.symm, hr.2.symm⟩

theorem takeWhile_append_of_stops {stop : Char → Bool} {cs t : List Char}
    (hc : ∀ c ∈ cs, stop c = false) (ht : StartsWith stop t) :
    (cs ++ t).takeWhile (fun c => !stop c) = cs ∧ (cs ++ t).dropWhile (fun c => !stop c) = t := by
  induction cs with
  | nil =>
    cases t with
    | nil => simp
    | cons d r => simp [startsWith_cons.mp ht]
  | cons c cs ih =>
    have hs := hc c (by simp)
    have ih := ih fun d hd => hc d (by simp [hd])
    simp [hs, ih]

/-- Pieces without a character of a class end where one of the class follows. -/
theorem readable_of_stops {stop : Char → Bool} (hf : ∀ a, good a → (f a).any stop = false)
    (hi : ∀ a b, good a → good b → f a = f b → a = b) : Readable good f (StartsWith stop) := by
  have hstop : ∀ a, good a → ∀ c ∈ f a, stop c = false := fun a ha c hc =>
    Bool.eq_false_iff.mpr (List.any_eq_false.mp (hf a ha) c hc)
  intro a b t u ha hb ht hu he
  obtain ⟨h₁, h₂⟩ := takeWhile_append_of_stops (hstop a ha) ht
  obtain ⟨h₃, h₄⟩ := takeWhile_append_of_stops (hstop b hb) hu
  rw [he] at h₁ h₂
  exact ⟨hi a b ha hb (h₁.symm.trans h₃), h₂.symm.trans h₄⟩

/-- A second piece may follow the first one if whatever it looks like ends the first. -/
theorem Readable.pair (hf : Readable good f after) (hg : Readable fine g before)
    (h : ∀ b t, fine b → before t → after (g b ++ t)) :
    Readable (fun p : α × β => good p.1 ∧ fine p.2) (fun p => f p.1 ++ g p.2) before := by
  rintro ⟨a, b⟩ ⟨a', b'⟩ t u ⟨ha, hb⟩ ⟨ha', hb'⟩ ht hu he
  rw [List.append_assoc, List.append_assoc] at he
  obtain ⟨rfl, hr⟩ := hf a a' _ _ ha ha' (h b t hb ht) (h b' u hb' hu) he
  obtain ⟨rfl, htu⟩ := hg b b' t u hb hb' ht hu hr
  exact ⟨rfl, htu⟩

/-- Pieces with a separator in front of each of them. -/
def chain (sep : List Char) (f : α → List Char) (l : List α) : List Char :=
  l.flatMap fun a => sep ++ f a

@[simp] theorem chain_nil (sep : List Char) (f : α → List Char) : chain sep f [] = [] := rfl

theorem chain_cons (sep : List Char) (f : α → List Char) (a : α) (l : List α) :
    chain sep f (a :: l) = sep ++ (f a ++ chain sep f l) := by
  simp [chain]

theorem intercalate_cons_eq_chain (sep : List Char) (f : α → List Char) (a : α) (l : List α) :
    List.intercalate sep ((a :: l).map f) = f a ++ chain sep f l := by
  induction l generalizing a with
  | nil => simp
  | cons b l ih =>
    have ih := ih b
    rw [List.map_cons] at ih
    rw [List.map_cons, List.map_cons, List.intercalate_cons_cons, ih, chain_cons]
    simp

/-- A separator ends each piece, and what follows the last one does not look like a separator. -/
theorem Readable.chain {sep : List Char} (hf : Readable good f after)
    (hs : ∀ t, after (sep ++ t)) :
    Readable (fun l => ∀ a ∈ l, good a) (chain sep f) (fun t => after t ∧ ¬ sep <+: t) := by
  intro l m t u hl hm ht hu he
  have hafter : ∀ (l : List α) {t}, after t → after (Text.chain sep f l ++ t) := by
    intro l t ht
    cases l with
    | nil => exact ht
    | cons a l =>
      rw [chain_cons, List.append_assoc]
      exact hs _
  -- the two lists end together: where one ends, the text does not go on with a separator
  induction l generalizing m with
  | nil =>
    cases m with
    | nil => exact ⟨rfl, he⟩
    | cons b m =>
      refine absurd ?_ ht.2
      rw [chain_nil, List.nil_append] at he
      rw [he, chain_cons, List.append_assoc]
      exact List.prefix_append _ _
  | cons a l ih =>
    cases m with
    | nil =>
      refine absurd ?_ hu.2
      rw [chain_nil, List.nil_append] at he
      rw [← he, chain_cons, List.append_assoc]
      exact List.prefix_append _ _
    | cons b m =>
      simp only [chain_cons, List.append_assoc, List.append_cancel_left_eq] at he
      obtain ⟨rfl, hr⟩ := hf a b _ _ (hl a (by simp)) (hm b (by simp)) (hafter l ht.1)
        (hafter m hu.1) he
      obtain ⟨rfl, htu⟩ :=
        ih m (fun x hx => hl x (by simp [hx])) (fun x hx => hm x (by simp [hx])) hr
      exact ⟨rfl, htu⟩

/-- Pieces with separators between them behind an opening, which stands only if there is a piece. -/
def part (opening sep : List Char) (f : α → List Char) : List α → List Char
  | [] => []
  | a :: l => opening ++ (f a ++ chain sep f l)

theorem part_congr {opening sep : List Char} {l : List α} {m : List β} (h : l.map f = m.map g) :
    part opening sep f l = part opening sep g m := by
  have hc : ∀ {γ : Type} (k : γ → List Char) (l : List γ),
      part opening sep k l = part opening sep id (l.map k) := by
    intro γ k l
    cases l with
    | nil => rfl
    | cons a l => simp [part, Text.chain, List.flatMap_map]
  rw [hc f l, hc g m, h]

/-- The opening tells whether there are pieces at all. -/
theorem Readable.part {opening sep : List Char} (hf : Readable good f after)
    (hs : ∀ t, after (sep ++ t)) :
    Readable (fun l => ∀ a ∈ l, good a) (part opening sep f)
      (fun t => (after t ∧ ¬ sep <+: t) ∧ ¬ opening <+: t) := by
  have hp := hf.pair (hf.chain hs) (by
    intro l t _ ht
    cases l with
    | nil => exact ht.1
    | cons a l =>
      rw [chain_cons, List.append_assoc]
      exact hs _)
  intro l m t u hl hm ht hu he
  cases l with
  | nil =>
    cases m with
    | nil => exact ⟨rfl, he⟩
    | cons b m =>
      refine absurd ?_ ht.2
      have ht' : t = opening ++ (f b ++ Text.chain sep f m) ++ u := he
      rw [ht', List.append_assoc]
      exact List.prefix_append _ _
  | cons a l =>
    cases m with
    | nil =>
      refine absurd ?_ hu.2
      have hu' : opening ++ (f a ++ Text.chain sep f l) ++ t = u := he
      rw [← hu', List.append_assoc]
      exact List.prefix_append _ _
    | cons b m =>
      simp only [Text.part, List.append_assoc, List.append_cancel_left_eq] at he
      simp only [← List.append_assoc] at he
      obtain ⟨hab, htu⟩ := hp (a, l) (b, m) t u ⟨hl a (by simp), fun x hx => hl x (by simp [hx])⟩
        ⟨hm b (by simp), fun x hx => hm x (by simp [hx])⟩ ht.1 hu.1 he
      rw [Prod.mk.injEq] at hab
      exact ⟨by rw [hab.1, hab.2], htu⟩

end LedgerQuery.Text
