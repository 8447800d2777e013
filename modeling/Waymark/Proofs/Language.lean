import Mathlib.Data.List.TakeWhile
import Waymark.Text.Blank
import Waymark.Value

/-!
This module contains languages whose texts stand for values, the operations that make languages from
others, and what it means to take a text of a language from the front of a longer text. Which text
that is may hinge on the character behind it: a class of characters that could go on with the text
is kept with each language, and a text counts only where none of them follows.
-/

namespace Waymark

def Avoids (more : Char → Bool) (text : List Char) : Prop :=
  ∀ c ∈ text.head?, more c = false

namespace Avoids

variable {more more' : Char → Bool} {text : List Char}

theorem nil : Avoids more [] := nofun

theorem cons_iff {c : Char} {cs : List Char} : Avoids more (c :: cs) ↔ more c = false := by
  simp [Avoids]

theorem mono (h : Avoids more text) (hmore : ∀ c, more' c = true → more c = true) :
    Avoids more' text := by
  intro c hc
  have := mt (hmore c)
  simp only [Bool.not_eq_true] at this
  exact this (h c hc)

end Avoids

theorem eq_false_symm {f g : Char → Bool} (h : ∀ c, f c = true → g c = false) (c : Char)
    (hc : g c = true) : f c = false := by
  rw [Bool.eq_false_iff]
  intro hf
  rw [h c hf] at hc
  contradiction

theorem eq_false_of_beq {f : Char → Bool} {d : Char} (hd : f d = false) (c : Char)
    (hc : (c == d) = true) : f c = false := by
  rw [eq_of_beq hc]
  exact hd

def union (f g : Char → Bool) (c : Char) : Bool :=
  f c || g c

theorem union_left {f : Char → Bool} (g : Char → Bool) (c : Char) (h : f c = true) :
    union f g c = true := by
  rw [union, h, Bool.true_or]

theorem union_right (f : Char → Bool) {g : Char → Bool} (c : Char) (h : g c = true) :
    union f g c = true := by
  rw [union, h, Bool.or_true]

theorem union_eq_false {f g h : Char → Bool} (hf : ∀ c, f c = true → h c = false)
    (hg : ∀ c, g c = true → h c = false) (c : Char) (hc : union f g c = true) : h c = false := by
  cases Bool.or_eq_true_iff.mp hc with
  | inl hc => exact hf c hc
  | inr hc => exact hg c hc

abbrev Language (α : Type) := List Char → α → Prop

namespace Language

variable {α β γ : Type}

def succeed (a : α) : Language α := fun text b =>
  text = [] ∧ b = a

def bind (L : Language α) (K : α → Language β) : Language β := fun text b =>
  ∃ front back a, text = front ++ back ∧ L front a ∧ K a back b

def map (L : Language α) (f : α → β) : Language β :=
  L.bind fun a => succeed (f a)

def either (L L' : Language α) : Language α := fun text a =>
  L text a ∨ L' text a

inductive Many (L : Language α) : Language (List α)
  | nil : Many L [] []
  | cons {front back : List Char} {a : α} {as : List α} (h : L front a) (hs : Many L back as) :
    Many L (front ++ back) (a :: as)

def separated (S : Language β) (L : Language α) : Language (List α) :=
  L.bind fun a => (Many (S.bind fun _ => L)).map (a :: ·)

def IsRun (f : Char → Bool) (text : List Char) : Prop :=
  text ≠ [] ∧ ∀ c ∈ text, f c = true

def Blanks (text : List Char) : Prop :=
  ∀ c ∈ text, Text.isBlank c = true

instance (text : List Char) : Decidable (Blanks text) :=
  List.decidableBAll _ text

instance (f : Char → Bool) (text : List Char) : Decidable (IsRun f text) :=
  have : Decidable (∀ c ∈ text, f c = true) := List.decidableBAll _ text
  inferInstanceAs (Decidable (_ ∧ _))

def spelled (f : List Char → Prop) : Language Value := fun text v =>
  f text ∧ v = .token (String.ofList text)

def word (w : String) : Language Value :=
  spelled fun text => text = w.toList

def run (f : Char → Bool) : Language Value :=
  spelled (IsRun f)

def blanks : Language Value :=
  spelled Blanks

def lexeme (L : Language α) : Language α :=
  L.bind fun a => blanks.map fun _ => a

def enclosed (O : Language β) (L : Language α) (C : Language γ) : Language α :=
  O.bind fun _ => L.bind fun a => C.map fun _ => a

def pair (L L' : Language Value) : Language Value :=
  L.bind fun v => L'.map fun w => .seq [v, w]

variable {L L' : Language α} {K : α → Language β} {first first' more more' mid : Char → Bool}
  {text next rest back : List Char} {a : α} {b : β}

section Membership

theorem mem_map (f : α → β) (h : L text a) : L.map f text (f a) :=
  ⟨text, [], a, (List.append_nil text).symm, h, rfl, rfl⟩

theorem map_iff {f : α → β} : L.map f text b ↔ ∃ a, L text a ∧ b = f a := by
  constructor
  . rintro ⟨front, _, a, rfl, ha, rfl, rfl⟩
    exact ⟨a, by rwa [List.append_nil], rfl⟩
  . rintro ⟨a, ha, rfl⟩
    exact mem_map f ha

theorem bind_map_iff {L' : Language β} {f : α → β → γ} {c : γ} :
    (L.bind fun a => L'.map (f a)) text c ↔
      ∃ front back a b, text = front ++ back ∧ L front a ∧ L' back b ∧ c = f a b := by
  constructor
  . rintro ⟨front, back, a, htext, ha, hc⟩
    obtain ⟨b, hb, rfl⟩ := map_iff.mp hc
    exact ⟨front, back, a, b, htext, ha, hb, rfl⟩
  . rintro ⟨front, back, a, b, htext, ha, hb, rfl⟩
    exact ⟨front, back, a, htext, ha, mem_map (f a) hb⟩

theorem pair_iff {L L' : Language Value} {u : Value} : pair L L' text u ↔
    ∃ front back v w, text = front ++ back ∧ L front v ∧ L' back w ∧ u = .seq [v, w] :=
  bind_map_iff

theorem pair_either {L L' M : Language Value} :
    pair (L.either L') M = (pair L M).either (pair L' M) := by
  funext text u
  apply propext
  constructor
  . rintro ⟨front, back, v, htext, hv | hv, h⟩
    . exact .inl ⟨front, back, v, htext, hv, h⟩
    . exact .inr ⟨front, back, v, htext, hv, h⟩
  . rintro (⟨front, back, v, htext, hv, h⟩ | ⟨front, back, v, htext, hv, h⟩)
    . exact ⟨front, back, v, htext, .inl hv, h⟩
    . exact ⟨front, back, v, htext, .inr hv, h⟩

theorem enclosed_iff {O : Language β} {C : Language γ} : enclosed O L C text a ↔
    ∃ opening content closing b c, text = opening ++ content ++ closing ∧ O opening b ∧
      L content a ∧ C closing c := by
  constructor
  . rintro ⟨opening, _, b, rfl, ho, h⟩
    obtain ⟨content, closing, _, c, rfl, ha, hc, rfl⟩ := bind_map_iff.mp h
    exact ⟨opening, content, closing, b, c, by rw [List.append_assoc], ho, ha, hc⟩
  . rintro ⟨opening, content, closing, b, c, rfl, ho, ha, hc⟩
    exact ⟨opening, content ++ closing, b, by rw [List.append_assoc], ho,
      bind_map_iff.mpr ⟨content, closing, a, c, rfl, ha, hc, rfl⟩⟩

theorem separated_one (S : Language β) (ha : L text a) : separated S L text [a] :=
  bind_map_iff.mpr ⟨text, [], a, [], (List.append_nil text).symm, ha, .nil, rfl⟩

theorem separated_cons {S : Language β} {separator : List Char} {as : List α} (ha : L text a)
    (hb : S separator b) (has : separated S L rest as) :
    separated S L (text ++ (separator ++ rest)) (a :: as) := by
  obtain ⟨front, back, a', as, rfl, ha', hmany, rfl⟩ := bind_map_iff.mp has
  have hround : (S.bind fun _ => L) (separator ++ front) a' := ⟨separator, front, b, rfl, hb, ha'⟩
  refine bind_map_iff.mpr ⟨text, _, a, _, ?_, ha, .cons hround hmany, rfl⟩
  rw [List.append_assoc]

theorem lexeme_iff : L.lexeme text a ↔
    ∃ front bs, text = front ++ bs ∧ L front a ∧ Blanks bs := by
  constructor
  . intro h
    obtain ⟨front, bs, _, _, htext, ha, ⟨hbs, -⟩, rfl⟩ := bind_map_iff.mp h
    exact ⟨front, bs, htext, ha, hbs⟩
  . rintro ⟨front, bs, htext, ha, hbs⟩
    exact bind_map_iff.mpr ⟨front, bs, a, _, htext, ha, ⟨hbs, rfl⟩, rfl⟩

theorem lexeme_spelled_iff {f : List Char → Prop} {v : Value} : (spelled f).lexeme text v ↔
    ∃ front bs, text = front ++ bs ∧ f front ∧ Blanks bs ∧ v = .token (String.ofList front) := by
  constructor
  . intro h
    obtain ⟨front, bs, htext, ⟨hfront, rfl⟩, hbs⟩ := lexeme_iff.mp h
    exact ⟨front, bs, htext, hfront, hbs, rfl⟩
  . rintro ⟨front, bs, htext, hfront, hbs, rfl⟩
    exact lexeme_iff.mpr ⟨front, bs, htext, ⟨hfront, rfl⟩, hbs⟩

theorem mem_lexeme_word (w : String) {bs : List Char} (hbs : Blanks bs) :
    (word w).lexeme (w.toList ++ bs) (.token w) :=
  lexeme_spelled_iff.mpr ⟨_, bs, rfl, rfl, hbs, by rw [String.ofList_toList]⟩

theorem lexeme_word_iff {w : String} {v : Value} : (word w).lexeme text v ↔
    ∃ bs, text = w.toList ++ bs ∧ Blanks bs ∧ v = .token w := by
  constructor
  . intro h
    obtain ⟨_, bs, htext, rfl, hbs, rfl⟩ := lexeme_spelled_iff.mp h
    exact ⟨bs, htext, hbs, by rw [String.ofList_toList]⟩
  . rintro ⟨bs, rfl, hbs, rfl⟩
    exact mem_lexeme_word w hbs

end Membership

section Starts

def Starts (L : Language α) (first : Char → Bool) : Prop :=
  ∀ text a, L text a → ∃ c cs, text = c :: cs ∧ first c = true

def Shields (L : Language α) (more mid : Char → Bool) : Prop :=
  ∀ text a back, L text a → Avoids more back → Avoids mid (text ++ back)

theorem Starts.mono (h : L.Starts first) (hfirst : ∀ c, first c = true → first' c = true) :
    L.Starts first' := by
  intro text a ha
  obtain ⟨c, cs, htext, hc⟩ := h text a ha
  exact ⟨c, cs, htext, hfirst c hc⟩

theorem Starts.bind (h : L.Starts first) : (L.bind K).Starts first := by
  rintro _ b ⟨front, back, a, rfl, ha, -⟩
  obtain ⟨c, cs, rfl, hc⟩ := h _ _ ha
  exact ⟨c, cs ++ back, rfl, hc⟩

theorem Starts.either (h : L.Starts first) (h' : L'.Starts first') :
    (L.either L').Starts (union first first') := by
  rintro text a (ha | ha)
  . exact h.mono (union_left first') _ _ ha
  . exact h'.mono (union_right first) _ _ ha

theorem Starts.avoids (h : L.Starts first) (hmid : ∀ c, first c = true → mid c = false)
    (ha : L text a) : Avoids mid (text ++ back) := by
  obtain ⟨c, cs, rfl, hc⟩ := h _ _ ha
  exact Avoids.cons_iff.mpr (hmid c hc)

theorem Starts.shields (h : L.Starts first) (hmid : ∀ c, first c = true → mid c = false) :
    L.Shields more mid := by
  intro text a back ha _
  exact h.avoids hmid ha

theorem Starts.not_append_eq (h : L.Starts first) (h' : L'.Starts first')
    (hfirst : ∀ c, first c = true → first' c = false) {text' back' : List Char} {a' : α}
    (ha : L text a) (ha' : L' text' a') : text ++ back ≠ text' ++ back' := by
  intro heq
  obtain ⟨c, cs, rfl, hc⟩ := h _ _ ha
  obtain ⟨c', cs', rfl, hc'⟩ := h' _ _ ha'
  obtain ⟨rfl, -⟩ := List.cons.inj heq
  rw [hfirst c hc] at hc'
  contradiction

theorem shields_succeed (hmid : ∀ c, mid c = true → more c = true) :
    (succeed a).Shields more mid := by
  rintro _ _ back ⟨rfl, rfl⟩ hback
  exact hback.mono hmid

theorem Shields.bind (h : L.Shields more' mid) (hK : ∀ a, (K a).Shields more more') :
    (L.bind K).Shields more mid := by
  rintro _ b back ⟨front, next, a, rfl, ha, hb⟩ hback
  rw [List.append_assoc]
  exact h _ _ _ ha (hK a _ _ _ hb hback)

theorem starts_word {w : String} {c : Char} {cs : List Char} (hw : w.toList = c :: cs) :
    (word w).Starts (· == c) := by
  rintro _ _ ⟨rfl, -⟩
  exact ⟨c, cs, hw, beq_self_eq_true c⟩

theorem starts_run (f : Char → Bool) : (run f).Starts f := by
  rintro text _ ⟨⟨hne, hf⟩, -⟩
  obtain ⟨c, cs, rfl⟩ := List.exists_cons_of_ne_nil hne
  exact ⟨c, cs, rfl, hf c List.mem_cons_self⟩

theorem shields_blanks (hblank : ∀ c, Text.isBlank c = true → mid c = false)
    (hmid : ∀ c, mid c = true → more c = true) : blanks.Shields more mid := by
  rintro text _ back ⟨hbs, -⟩ hback
  cases text with
  | nil => exact hback.mono hmid
  | cons c cs => exact Avoids.cons_iff.mpr (hblank c (hbs c List.mem_cons_self))

theorem Shields.either (h : L.Shields more mid) (h' : L'.Shields more mid) :
    (L.either L').Shields more mid := by
  rintro text a back (ha | ha) hback
  . exact h _ _ _ ha hback
  . exact h' _ _ _ ha hback

theorem Shields.map (h : L.Shields more mid) {f : α → β} : (L.map f).Shields more mid :=
  h.bind fun _ => shields_succeed fun _ hc => hc

structure Repeats (L : Language α) (first mid : Char → Bool) : Prop where
  starts : L.Starts first
  mid_eq_false (c : Char) (h : first c = true) : mid c = false

theorem Repeats.shields (h : L.Repeats first mid) :
    (Many L).Shields (union mid first) mid := by
  intro text as back has hback
  cases has with
  | nil => exact hback.mono (union_left first)
  | cons ha _ =>
    rw [List.append_assoc]
    exact h.starts.avoids h.mid_eq_false ha

end Starts

section Takes

/--
Whether a text is a text of the language, for a value, before a rest, and has no other text of the
language at its front that is followed by none of the characters that could go on with it.
-/
structure Takes (L : Language α) (more : Char → Bool) (text rest : List Char) (a : α) : Prop where
  split : ∃ front, text = front ++ rest ∧ L front a
  only {front back : List Char} {b : α} (htext : text = front ++ back) (hfront : L front b)
    (hback : Avoids more back) : back = rest ∧ b = a

def Lacks (L : Language α) (more : Char → Bool) (text : List Char) : Prop :=
  ∀ front back a, text = front ++ back → L front a → ¬ Avoids more back

theorem Takes.length_le (h : L.Takes more text rest a) : rest.length ≤ text.length := by
  obtain ⟨front, rfl, -⟩ := h.split
  rw [List.length_append]
  omega

theorem Takes.length_lt (h : L.Takes more text rest a) (hL : L.Starts first) :
    rest.length < text.length := by
  obtain ⟨front, rfl, ha⟩ := h.split
  obtain ⟨c, cs, rfl, -⟩ := hL _ _ ha
  rw [List.length_append, List.length_cons]
  omega

theorem takes_succeed (a : α) (more : Char → Bool) (text : List Char) :
    (succeed a).Takes more text text a := by
  refine ⟨⟨[], rfl, rfl, rfl⟩, ?_⟩
  rintro _ back _ rfl ⟨rfl, rfl⟩ _
  exact ⟨rfl, rfl⟩

theorem takes_spelled {f : List Char → Prop} {front : List Char} (htext : text = front ++ rest)
    (hfront : f front) (honly : ∀ front' back, text = front' ++ back → f front' →
      Avoids more back → back = rest) :
    (spelled f).Takes more text rest (.token (String.ofList front)) := by
  refine ⟨⟨front, htext, hfront, rfl⟩, ?_⟩
  rintro front' back _ htext' ⟨hfront', rfl⟩ hback
  obtain rfl := honly front' back htext' hfront' hback
  rw [htext, List.append_cancel_right_eq] at htext'
  exact ⟨rfl, by rw [htext']⟩

theorem takes_word {w : String} (h : text = w.toList ++ rest) (more : Char → Bool) :
    (word w).Takes more text rest (.token w) := by
  have honly (front back : List Char) (htext : text = front ++ back) (hfront : front = w.toList)
      (_ : Avoids more back) : back = rest := by
    rw [h, hfront, List.append_cancel_left_eq] at htext
    exact htext.symm
  have htakes := takes_spelled (f := (· = w.toList)) h rfl honly
  rwa [String.ofList_toList] at htakes

theorem lacks_word {w : String} (h : ¬ w.toList <+: text) (more : Char → Bool) :
    (word w).Lacks more text := by
  rintro _ back _ rfl ⟨rfl, -⟩ _
  exact h (List.prefix_append _ _)

theorem dropWhile_append {f : Char → Bool} {front : List Char} (hfront : ∀ c ∈ front, f c = true)
    (hback : Avoids f back) : (front ++ back).dropWhile f = back := by
  rw [List.dropWhile_append_of_pos hfront]
  cases back with
  | nil => rfl
  | cons c cs =>
    rw [List.dropWhile_cons_of_neg]
    rw [Avoids.cons_iff.mp hback]
    exact Bool.false_ne_true

theorem takes_takeWhile {f : List Char → Prop} {g : Char → Bool} (h : f (text.takeWhile g))
    (hf : ∀ front, f front → ∀ c ∈ front, g c = true) (hmore : ∀ c, g c = true → more c = true) :
    (spelled f).Takes more text (text.dropWhile g) (.token (String.ofList (text.takeWhile g))) := by
  apply takes_spelled List.takeWhile_append_dropWhile.symm h
  rintro front back rfl hfront hback
  exact (dropWhile_append (hf front hfront) (hback.mono hmore)).symm

theorem takes_run {f : Char → Bool} (h : text.takeWhile f ≠ [])
    (hmore : ∀ c, f c = true → more c = true) :
    (run f).Takes more text (text.dropWhile f) (.token (String.ofList (text.takeWhile f))) :=
  takes_takeWhile ⟨h, fun _ hc => List.mem_takeWhile_imp hc⟩ (fun _ hfront => hfront.2) hmore

theorem lacks_run {f : Char → Bool} (h : text.takeWhile f = []) (more : Char → Bool) :
    (run f).Lacks more text := by
  intro front back v htext hv _
  obtain ⟨c, cs, rfl, hc⟩ := starts_run f _ _ hv
  rw [htext, List.cons_append, List.takeWhile_cons_of_pos hc] at h
  contradiction

theorem takes_blanks (hmore : ∀ c, Text.isBlank c = true → more c = true) :
    blanks.Takes more text (text.dropWhile Text.isBlank)
      (.token (String.ofList (text.takeWhile Text.isBlank))) :=
  takes_takeWhile (fun _ hc => List.mem_takeWhile_imp hc) (fun _ hfront => hfront) hmore

theorem Takes.bind (h : L.Takes mid text next a) (hb : (K a).Takes more next rest b)
    (hK : ∀ a, (K a).Shields more mid) : (L.bind K).Takes more text rest b := by
  constructor
  . obtain ⟨front, rfl, hfront⟩ := h.split
    obtain ⟨front', rfl, hfront'⟩ := hb.split
    exact ⟨front ++ front', (List.append_assoc _ _ _).symm, front, front', a, rfl, hfront, hfront'⟩
  . rintro _ back b' rfl ⟨front, front', a', rfl, hfront, hfront'⟩ hback
    obtain ⟨hnext, rfl⟩ := h.only (List.append_assoc _ _ _) hfront (hK a' _ _ _ hfront' hback)
    exact hb.only hnext.symm hfront' hback

theorem Takes.bind_lacks (h : L.Takes mid text next a) (hb : (K a).Lacks more next)
    (hK : ∀ a, (K a).Shields more mid) : (L.bind K).Lacks more text := by
  rintro _ back b' rfl ⟨front, front', a', rfl, hfront, hfront'⟩ hback
  obtain ⟨hnext, rfl⟩ := h.only (List.append_assoc _ _ _) hfront (hK a' _ _ _ hfront' hback)
  exact hb _ _ _ hnext.symm hfront' hback

theorem Lacks.bind (h : L.Lacks mid text) (hK : ∀ a, (K a).Shields more mid) :
    (L.bind K).Lacks more text := by
  rintro _ back b' rfl ⟨front, front', a', rfl, hfront, hfront'⟩ hback
  exact h _ _ _ (List.append_assoc _ _ _) hfront (hK a' _ _ _ hfront' hback)

theorem Takes.map (h : L.Takes more text rest a) {f : α → β} :
    (L.map f).Takes more text rest (f a) := by
  apply h.bind (takes_succeed (f a) more rest)
  intro _
  exact shields_succeed fun _ hc => hc

theorem Lacks.map (h : L.Lacks more text) {f : α → β} : (L.map f).Lacks more text := by
  apply h.bind
  intro _
  exact shields_succeed fun _ hc => hc

theorem Takes.either_left (h : L.Takes more text rest a) (hL : L.Starts first)
    (hL' : L'.Starts first') (hfirst : ∀ c, first c = true → first' c = false) :
    (L.either L').Takes more text rest a := by
  obtain ⟨front, htext, hfront⟩ := h.split
  refine ⟨⟨front, htext, .inl hfront⟩, ?_⟩
  rintro front' back b htext' (hfront' | hfront') hback
  . exact h.only htext' hfront' hback
  . exact absurd (htext.symm.trans htext') (hL.not_append_eq hL' hfirst hfront hfront')

theorem Lacks.either_right (h : L.Lacks more text) (ha : L'.Takes more text rest a) :
    (L.either L').Takes more text rest a := by
  obtain ⟨front, htext, hfront⟩ := ha.split
  refine ⟨⟨front, htext, .inr hfront⟩, ?_⟩
  rintro front' back b htext' (hfront' | hfront') hback
  . exact absurd hback (h _ _ _ htext' hfront')
  . exact ha.only htext' hfront' hback

theorem Lacks.either (h : L.Lacks more text) (h' : L'.Lacks more text) :
    (L.either L').Lacks more text := by
  rintro front back a htext (hfront | hfront)
  . exact h _ _ _ htext hfront
  . exact h' _ _ _ htext hfront

theorem Takes.not_avoids (h : L.Takes mid text rest a) (hL : L.Starts first)
    (hmore : ∀ c, first c = true → more c = true) : ¬ Avoids more text := by
  intro htext
  obtain ⟨front, rfl, hfront⟩ := h.split
  obtain ⟨c, cs, rfl, hc⟩ := hL _ _ hfront
  rw [List.cons_append, Avoids.cons_iff, hmore c hc] at htext
  contradiction

theorem Takes.either_succeed (h : L.Takes more text rest a) (hL : L.Starts first)
    (hmore : ∀ c, first c = true → more c = true) (a' : α) :
    (L.either (succeed a')).Takes more text rest a := by
  obtain ⟨front, htext, hfront⟩ := h.split
  refine ⟨⟨front, htext, .inl hfront⟩, ?_⟩
  rintro front' back b htext' (hfront' | ⟨rfl, rfl⟩) hback
  . exact h.only htext' hfront' hback
  . rw [← List.nil_append back, ← htext'] at hback
    exact absurd hback (h.not_avoids hL hmore)

theorem Takes.many_cons (h : L.Takes mid text next a) {as : List α}
    (has : (Many L).Takes (union mid first) next rest as) (hL : L.Repeats first mid) :
    (Many L).Takes (union mid first) text rest (a :: as) := by
  constructor
  . obtain ⟨front, htext, hfront⟩ := h.split
    obtain ⟨front', rfl, hfront'⟩ := has.split
    exact ⟨front ++ front', by rw [htext, List.append_assoc], .cons hfront hfront'⟩
  . rintro _ back _ htext (_ | ⟨ha, has'⟩) hback
    . rw [← List.nil_append back, ← htext] at hback
      exact absurd hback (h.not_avoids hL.starts (union_right mid))
    . rw [List.append_assoc] at htext
      obtain ⟨hnext, rfl⟩ := h.only htext ha (hL.shields _ _ _ has' hback)
      obtain ⟨hrest, rfl⟩ := has.only hnext.symm has' hback
      exact ⟨hrest, rfl⟩

theorem Lacks.many_nil (h : L.Lacks mid text) (hL : L.Repeats first mid) :
    (Many L).Takes (union mid first) text text [] := by
  refine ⟨⟨[], rfl, .nil⟩, ?_⟩
  rintro _ back _ htext (_ | ⟨ha, has⟩) hback
  . exact ⟨htext.symm, rfl⟩
  . rw [List.append_assoc] at htext
    exact absurd (hL.shields _ _ _ has hback) (h _ _ _ htext ha)

end Takes

end Language
end Waymark
