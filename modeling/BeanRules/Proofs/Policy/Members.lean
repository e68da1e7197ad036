import BeanRules.Policy.Reader
import BeanRules.Proofs.Json.Decoding

/-!
The values of a policy text one at a time. Each step of the reader gives what its part of the text
says, leaves the text behind that part, and fails if the part says nothing that was asked for.
-/
namespace BeanRules.Policy

open Json (Stop Item Member StringPart ValueText Spaces Follows Leaves closed skipSpace)
open Text (Rest)

/-! What a value says, if it says anything. -/

def flagText (b : Bool) : List Char :=
  if b then ['t', 'r', 'u', 'e'] else ['f', 'a', 'l', 's', 'e']

def SaysFlag (b : Bool) (v : List Char) : Prop := v = flagText b

/-- The string of that word, or an object that holds null under it. -/
inductive SaysCheck (k : IndexCheck) : List Char → Prop where
  | string {parts : List StringPart} (spells : StringPart.decode? parts = some k.word.toList) :
      SaysCheck k ('"' :: closed parts)
  | tagged {m : Member} (spells : StringPart.decode? m.key = some k.word.toList)
      (null : m.item.value = ['n', 'u', 'l', 'l']) : SaysCheck k ('\x7b' :: (m.text ++ ['\x7d']))

abbrev View (β α : Type) := β → α × List Char

def unread {s : List Char} : View (Rest s) Unit := fun t => ((), t.text)

def readTo {α : Type} {s : List Char} : View (α × Rest s) α := fun x => (x.1, x.2.text)

theorem readTo_mk {α : Type} {s r : List Char} {t : Rest s} (a : α) (h : t.text = r) :
    readTo (a, t) = (a, r) := by
  rw [← h]
  rfl

/-- A step gives what is said and leaves this text, or fails if nothing is said. -/
structure Settles {α β : Type} (view : View β α) (said : α → Prop) (x : Except Stop β)
    (r : List Char) : Prop where
  reads : ∀ a, said a → ∃ b, x = .ok b ∧ view b = (a, r)
  fails : (∀ a, ¬said a) → ∃ stop, x = .error stop

section Combine

variable {α α' β β' : Type} {view : View β α} {view' : View β' α'} {P P' : α → Prop}
  {x : Except Stop β} {u r : List Char}

theorem Settles.congr (h : Settles view P x r) (iff : ∀ a, P' a ↔ P a) :
    Settles view P' x r where
  reads a ha := h.reads a ((iff a).mp ha)
  fails none := h.fails fun a ha => none a ((iff a).mpr ha)

theorem Settles.bind {Q : α → α' → Prop} {k : β → Except Stop β'} (hx : Settles view P x u)
    (hk : ∀ a b, P a → view b = (a, u) → Settles view' (Q a) (k b) r) :
    Settles view' (fun a' => ∃ a, P a ∧ Q a a') (x >>= k) r where
  reads := by
    rintro a' ⟨a, ha, ha'⟩
    obtain ⟨b, rfl, hb⟩ := hx.reads a ha
    exact (hk a b ha hb).reads a' ha'
  fails none := by
    by_cases hsaid : ∃ a, P a
    · obtain ⟨a, ha⟩ := hsaid
      obtain ⟨b, rfl, hb⟩ := hx.reads a ha
      exact (hk a b ha hb).fails fun a' ha' => none a' ⟨a, ha, ha'⟩
    · obtain ⟨stop, rfl⟩ := hx.fails (not_exists.mp hsaid)
      exact ⟨stop, rfl⟩

theorem Settles.rewrap {view' : View β' α} {k : β → Except Stop β'} (hx : Settles view P x r)
    (hk : ∀ b, ∃ b', k b = .ok b' ∧ view' b' = view b) : Settles view' P (x >>= k) r where
  reads a ha := by
    obtain ⟨b, rfl, hb⟩ := hx.reads a ha
    obtain ⟨b', hk, hb'⟩ := hk b
    exact ⟨b', hk, hb'.trans hb⟩
  fails none := by
    obtain ⟨stop, rfl⟩ := hx.fails none
    exact ⟨stop, rfl⟩

/-- A step that only tells whether something is said. -/
theorem Settles.guard {p : Prop} {s : List Char} {x : Except Stop (Rest s)}
    {k : Rest s → Except Stop β} (hx : Settles unread (fun _ => p) x u)
    (hk : p → ∀ t, t.text = u → Settles view P (k t) r) :
    Settles view (fun a => p ∧ P a) (x >>= k) r := by
  have hbind : Settles view (fun a => ∃ _ : Unit, p ∧ P a) (x >>= k) r :=
    hx.bind fun _ t hp ht => hk hp t (Prod.mk.inj ht).2
  exact hbind.congr fun a => ⟨fun h => ⟨(), h⟩, fun h => h.elim fun _ h => h⟩

theorem Settles.after_leaves {s : List Char} {x : Except Stop (Rest s)}
    {k : Rest s → Except Stop β} (hx : Leaves x u)
    (hk : ∀ t, t.text = u → Settles view P (k t) r) : Settles view P (x >>= k) r := by
  obtain ⟨t, rfl, ht⟩ := hx
  exact hk t ht

theorem settles_ok {b : β} {a : α} (h : view b = (a, r)) :
    Settles view (· = a) (.ok b) r where
  reads := by
    rintro _ rfl
    exact ⟨b, rfl, h⟩
  fails none := absurd rfl (none a)

theorem settles_error {stop : Stop} (none : ∀ a, ¬P a) :
    Settles view P (.error stop) r where
  reads a ha := absurd ha (none a)
  fails _ := ⟨stop, rfl⟩

end Combine

section Values

variable {b s t v r : List Char}

theorem skipSpace_value (hv : ValueText v) (hb : Spaces b) (r : List Char) :
    skipSpace (b ++ (v ++ r)) = v ++ r := by
  obtain ⟨c, t, rfl, hspace, -⟩ := hv.head
  exact Json.skipSpace_of_spaces hb hspace _

theorem reads_flag {f : Bool} (h : skipSpace s = flagText f ++ r) :
    ∃ x, readFlag s = .ok x ∧ readTo x = (f, r) := by
  cases f with
  | true =>
    unfold readFlag
    split
    case h_2 h' =>
      cases h.symm.trans h'
      exact ⟨_, rfl, rfl⟩
    all_goals simp_all [flagText]
  | false =>
    unfold readFlag
    split
    case h_3 h' =>
      cases h.symm.trans h'
      exact ⟨_, rfl, rfl⟩
    all_goals simp_all [flagText]

theorem fails_flag {c : Char} (h : skipSpace s = c :: t) (yes : c ≠ 't') (no : c ≠ 'f') :
    ∃ stop, readFlag s = .error stop := by
  unfold readFlag
  split
  case h_2 h' =>
    cases h.symm.trans h'
    exact absurd rfl yes
  case h_3 h' =>
    cases h.symm.trans h'
    exact absurd rfl no
  all_goals exact ⟨_, rfl⟩

theorem settles_flag (hv : ValueText v) (hb : Spaces b) (r : List Char) :
    Settles readTo (SaysFlag · v) (readFlag (b ++ (v ++ r))) r where
  reads := by
    rintro f rfl
    exact reads_flag (skipSpace_value hv hb r)
  fails none := by
    have hfront := skipSpace_value hv hb r
    cases hv with
    | yes => exact absurd rfl (none true)
    | no => exact absurd rfl (none false)
    | number h =>
      obtain ⟨c, t, rfl, hc⟩ := h.head
      exact fails_flag hfront (Decimal.ne_of_isDigit hc rfl) (Decimal.ne_of_isDigit hc rfl)
    | _ => exact fails_flag hfront (by decide) (by decide)

theorem fails_null {c : Char} (h : skipSpace s = c :: t) (null : c ≠ 'n') :
    ∃ stop, readNull s = .error stop := by
  unfold readNull
  split
  case h_2 h' =>
    cases h.symm.trans h'
    exact absurd rfl null
  all_goals exact ⟨_, rfl⟩

theorem settles_null (hv : ValueText v) (hb : Spaces b) (r : List Char) :
    Settles unread (fun _ => v = ['n', 'u', 'l', 'l']) (readNull (b ++ (v ++ r))) r where
  reads := by
    rintro - rfl
    have hfront := skipSpace_value hv hb r
    unfold readNull
    split
    case h_2 h' =>
      cases hfront.symm.trans h'
      exact ⟨_, rfl, rfl⟩
    all_goals simp_all
  fails none := by
    have hfront := skipSpace_value hv hb r
    cases hv with
    | null => exact absurd rfl (none ())
    | number h =>
      obtain ⟨c, t, rfl, hc⟩ := h.head
      exact fails_null hfront (Decimal.ne_of_isDigit hc rfl)
    | _ => exact fails_null hfront (by decide)

theorem settles_brace (hb : Spaces b) {c : Char} (hc : c = ',' ∨ c = '\x7d') (r : List Char) :
    Settles unread (fun _ => c = '\x7d') (readBrace (b ++ c :: r)) r where
  reads := by
    rintro - rfl
    have hfront : skipSpace (b ++ '\x7d' :: r) = '\x7d' :: r :=
      Json.skipSpace_of_spaces hb rfl _
    unfold readBrace
    split
    case h_2 h' =>
      cases hfront.symm.trans h'
      exact ⟨_, rfl, rfl⟩
    all_goals simp_all
  fails none := by
    obtain rfl := hc.resolve_right (none ())
    have hfront : skipSpace (b ++ ',' :: r) = ',' :: r :=
      Json.skipSpace_of_spaces hb rfl _
    unfold readBrace
    split
    case h_2 h' => cases hfront.symm.trans h'
    all_goals exact ⟨_, rfl⟩

theorem settles_string (parts : List StringPart) (r : List Char) :
    Settles readTo (fun text => StringPart.decode? parts = some text)
      (Json.stringBody (closed parts ++ r)) r := by
  have hread := Json.decodes_closed parts r
  generalize StringPart.decode? parts = o at hread ⊢
  cases hread with
  | @reads text _ h =>
    obtain ⟨rest, h, hrest⟩ := h
    rw [h]
    refine (settles_ok (readTo_mk text hrest)).congr fun a => ?_
    rw [Option.some_inj, eq_comm]
  | @fails stop _ h =>
    rw [h]
    exact settles_error fun _ ha => nomatch ha

theorem settles_checkName (parts : List StringPart) (r : List Char) :
    Settles readTo (fun k => StringPart.decode? parts = some k.word.toList)
      (readIndexCheckName (closed parts ++ r)) r := by
  unfold readIndexCheckName
  refine ((settles_string parts r).bind (Q := fun text k => String.ofList text = k.word)
    fun text x _ hx => ?_).congr fun k => ?_
  · obtain ⟨_, rest⟩ := x
    obtain ⟨rfl, hrest⟩ := Prod.mk.inj hx
    dsimp only at hrest ⊢
    split
    case h_1 heager =>
      refine (settles_ok (readTo_mk IndexCheck.eager hrest)).congr fun k => ?_
      rw [heager]
      cases k <;> decide
    case h_2 hdeferred =>
      refine (settles_ok (readTo_mk IndexCheck.deferred hrest)).congr fun k => ?_
      rw [hdeferred]
      cases k <;> decide
    case h_3 heager hdeferred =>
      apply settles_error
      intro k hk
      cases k with
      | eager => exact heager hk
      | deferred => exact hdeferred hk
  · constructor
    · intro h
      exact ⟨_, h, String.ofList_toList⟩
    · rintro ⟨text, h, hword⟩
      rw [h, ← hword, String.toList_ofList]

theorem item_append (i : Item) (r : List Char) :
    i.text ++ r = i.before ++ (i.value ++ (i.after ++ r)) := by
  simp [Item.text]

theorem settles_checkKey (m : Member) (hv : ValueText m.item.value) {c : Char}
    (hc : c = ',' ∨ c = '\x7d') (r : List Char) :
    Settles readTo (fun k => StringPart.decode? m.key = some k.word.toList ∧
        m.item.value = ['n', 'u', 'l', 'l'] ∧ c = '\x7d')
      (readIndexCheckKey (m.text ++ c :: r)) r := by
  have hname : Settles readTo (fun k => StringPart.decode? m.key = some k.word.toList)
      (readIndexCheckName (m.fromKey ++ c :: r))
      (m.behindKey ++ ':' :: (m.item.text ++ c :: r)) := by
    rw [Json.fromKey_append]
    exact settles_checkName _ _
  unfold readIndexCheckKey
  split
  case h_2 h' =>
    cases (Json.skipSpace_member m (c :: r)).symm.trans h'
    refine (hname.bind (Q := fun k k' => m.item.value = ['n', 'u', 'l', 'l'] ∧ c = '\x7d' ∧ k' = k)
      fun k x _ hx => ?_).congr fun k => ?_
    · obtain ⟨check, t⟩ := x
      obtain ⟨rfl, ht⟩ := Prod.mk.inj hx
      dsimp only at ht ⊢
      have hcolon : Leaves (Json.colon t.text) (m.item.text ++ c :: r) := by
        rw [ht]
        exact Json.leaves_colon (Json.skipSpace_behindKey m _)
      refine .after_leaves hcolon fun u hu => ?_
      have hnull : Settles unread (fun _ => m.item.value = ['n', 'u', 'l', 'l'])
          (readNull u.text) (m.item.after ++ c :: r) := by
        rw [hu, item_append]
        exact settles_null hv m.item.spaces_before _
      refine hnull.guard fun _ v hv => ?_
      have hbrace : Settles unread (fun _ => c = '\x7d') (readBrace v.text) r := by
        rw [hv]
        exact settles_brace m.item.spaces_after hc r
      exact hbrace.guard fun _ w hw => settles_ok (readTo_mk _ hw)
    · constructor
      · rintro ⟨hkey, hnull, hbrace⟩
        exact ⟨k, hkey, hnull, hbrace, rfl⟩
      · rintro ⟨_, hkey, hnull, hbrace, rfl⟩
        exact ⟨hkey, hnull, hbrace⟩
  all_goals simp_all [Json.skipSpace_member]

theorem settles_noKey (hb : Spaces b) (r : List Char) :
    Settles readTo (fun _ => False) (readIndexCheckKey (b ++ '\x7d' :: r)) r := by
  have hfront : skipSpace (b ++ '\x7d' :: r) = '\x7d' :: r :=
    Json.skipSpace_of_spaces hb rfl _
  unfold readIndexCheckKey
  split
  case h_2 h' => cases hfront.symm.trans h'
  all_goals exact settles_error fun _ => id

theorem Settles.quoted {P : IndexCheck → Prop} (h : skipSpace s = '"' :: t)
    (name : Settles readTo P (readIndexCheckName t) r) : Settles readTo P (readIndexCheck s) r := by
  unfold readIndexCheck
  split
  case h_2 h' =>
    cases h.symm.trans h'
    exact name.rewrap fun _ => ⟨_, rfl, rfl⟩
  all_goals simp_all

theorem Settles.braced {P : IndexCheck → Prop} (h : skipSpace s = '\x7b' :: t)
    (key : Settles readTo P (readIndexCheckKey t) r) : Settles readTo P (readIndexCheck s) r := by
  unfold readIndexCheck
  split
  case h_3 h' =>
    cases h.symm.trans h'
    exact key.rewrap fun _ => ⟨_, rfl, rfl⟩
  all_goals simp_all

theorem fails_check {c : Char} (h : skipSpace s = c :: t) (quote : c ≠ '"') (brace : c ≠ '\x7b') :
    ∃ stop, readIndexCheck s = .error stop := by
  unfold readIndexCheck
  split
  case h_2 h' =>
    cases h.symm.trans h'
    exact absurd rfl quote
  case h_3 h' =>
    cases h.symm.trans h'
    exact absurd rfl brace
  all_goals exact ⟨_, rfl⟩

theorem settles_check (hv : ValueText v) (hb : Spaces b) (r : List Char) :
    Settles readTo (SaysCheck · v) (readIndexCheck (b ++ (v ++ r))) r where
  reads := by
    intro k hsays
    have hfront := skipSpace_value hv hb r
    generalize b ++ (v ++ r) = s at hfront ⊢
    cases hsays with
    | @string parts spells =>
      exact (Settles.quoted hfront (settles_checkName parts r)).reads k spells
    | @tagged m spells null =>
      have hnull : ValueText m.item.value := null ▸ .null
      have hkey := settles_checkKey m hnull (.inr rfl) r
      rw [List.cons_append, List.append_assoc] at hfront
      exact (Settles.braced hfront hkey).reads k ⟨spells, null, rfl⟩
  fails none := by
    have hfront := skipSpace_value hv hb r
    generalize b ++ (v ++ r) = s at hfront ⊢
    cases hv with
    | string parts =>
      exact (Settles.quoted hfront (settles_checkName parts r)).fails fun k hk => none k (.string hk)
    | @object members body listed values =>
      rw [List.cons_append, List.append_assoc, List.singleton_append] at hfront
      cases listed with
      | none spaces => exact (Settles.braced hfront (settles_noKey spaces r)).fails fun _ => id
      | some first rest =>
        have hfirst := values first List.mem_cons_self
        rw [List.append_assoc] at hfront
        cases rest with
        | nil =>
          have hkey := settles_checkKey first hfirst (.inr rfl) r
          refine (Settles.braced hfront hkey).fails ?_
          rintro k ⟨spells, null, -⟩
          apply none k
          rw [List.flatMap_nil, List.append_nil]
          exact .tagged spells null
        | cons m rest =>
          have hkey := settles_checkKey first hfirst (.inl rfl)
            (m.text ++ rest.flatMap (fun m => ',' :: m.text) ++ '\x7d' :: r)
          refine (Settles.braced hfront hkey).fails ?_
          rintro k ⟨-, -, hbrace⟩
          cases hbrace
    | number h =>
      obtain ⟨c, t, rfl, hc⟩ := h.head
      exact fails_check hfront (Decimal.ne_of_isDigit hc rfl) (Decimal.ne_of_isDigit hc rfl)
    | _ => exact fails_check hfront (by decide) (by decide)

end Values

/-- A member whose key stands for a name and whose value is well-formed. -/
structure Entry where
  member : Member
  name : String
  named : StringPart.decode? member.key = some name.toList
  wellFormed : ValueText member.item.value

def Entry.value (e : Entry) : List Char := e.member.item.value

/-- The member of a choice makes it, if it is not made yet. Other members leave it as it is. -/
def Makes {α : Type} (name : String) (said : α → List Char → Prop) (e : Entry)
    (before after : Option α) : Prop :=
  if e.name = name then before = none ∧ ∃ a, said a e.value ∧ after = some a else after = before

structure Takes (d : Draft) (e : Entry) (d' : Draft) : Prop where
  indexCheck : Makes "index_check" SaysCheck e d.indexCheck d'.indexCheck
  strictAttributes :
    Makes "strict_attributes" SaysFlag e d.strictAttributes d'.strictAttributes
  validatePatterns :
    Makes "validate_patterns" SaysFlag e d.validatePatterns d'.validatePatterns

theorem takes_iff {d d' : Draft} {e : Entry} : Takes d e d' ↔
    Makes "index_check" SaysCheck e d.indexCheck d'.indexCheck ∧
    Makes "strict_attributes" SaysFlag e d.strictAttributes d'.strictAttributes ∧
    Makes "validate_patterns" SaysFlag e d.validatePatterns d'.validatePatterns :=
  ⟨fun h => ⟨h.indexCheck, h.strictAttributes, h.validatePatterns⟩,
    fun h => ⟨h.1, h.2.1, h.2.2⟩⟩

section Members

variable {d d' : Draft} {e : Entry} {r : List Char}

theorem takes_indexCheck (name : e.name = "index_check") : Takes d e d' ↔
    d.indexCheck = none ∧ ∃ k, SaysCheck k e.value ∧ d' = { d with indexCheck := some k } := by
  obtain ⟨check, strict, validate⟩ := d'
  rw [takes_iff, Makes, Makes, Makes, name, if_pos rfl, if_neg (by decide), if_neg (by decide)]
  grind

theorem takes_strictAttributes (name : e.name = "strict_attributes") : Takes d e d' ↔
    d.strictAttributes = none ∧
      ∃ b, SaysFlag b e.value ∧ d' = { d with strictAttributes := some b } := by
  obtain ⟨check, strict, validate⟩ := d'
  rw [takes_iff, Makes, Makes, Makes, name, if_pos rfl, if_neg (by decide), if_neg (by decide)]
  grind

theorem takes_validatePatterns (name : e.name = "validate_patterns") : Takes d e d' ↔
    d.validatePatterns = none ∧
      ∃ b, SaysFlag b e.value ∧ d' = { d with validatePatterns := some b } := by
  obtain ⟨check, strict, validate⟩ := d'
  rw [takes_iff, Makes, Makes, Makes, name, if_pos rfl, if_neg (by decide), if_neg (by decide)]
  grind

theorem takes_unknown (check : e.name ≠ "index_check") (strict : e.name ≠ "strict_attributes")
    (validate : e.name ≠ "validate_patterns") : Takes d e d' ↔ d' = d := by
  obtain ⟨c, s, v⟩ := d'
  rw [takes_iff, Makes, Makes, Makes, if_neg check, if_neg strict, if_neg validate]
  cases d
  simp

/-- A choice that was made already is refused, else its value is read. -/
theorem settles_choice {α : Type} {said : α → Prop} {o : Option α} {twice : Stop}
    {s w : List Char} {t : Rest s} {read : (s : List Char) → Except Stop (α × Rest s)}
    (set : α → Draft) (colon : Leaves (Json.colon t.text) w)
    (value : Settles readTo said (read w) r) :
    Settles readTo (fun d => o = none ∧ ∃ a, said a ∧ d = set a)
      (if o.isSome = true then do
        Except.error twice
        let u ← Json.colon t.text
        let x ← read u.text
        pure (set x.1, t.andThen (u.andThen x.2))
      else do
        let u ← Json.colon t.text
        let x ← read u.text
        pure (set x.1, t.andThen (u.andThen x.2))) r := by
  cases o with
  | some a =>
    apply settles_error
    rintro d ⟨⟨⟩, -⟩
  | none =>
    refine .after_leaves colon fun u hu => ?_
    subst hu
    refine (value.bind (Q := fun a d => d = set a) fun a x _ hx => ?_).congr fun d => ?_
    · obtain ⟨rfl, hrest⟩ := Prod.mk.inj hx
      exact settles_ok (readTo_mk _ hrest)
    · simp

theorem settles_member (d : Draft) (e : Entry) (hr : Follows r) :
    Settles readTo (Takes d e) (readMember d (e.member.fromKey ++ r))
      (e.member.item.after ++ r) := by
  have hstring := settles_string e.member.key
    (e.member.behindKey ++ ':' :: (e.member.item.text ++ r))
  rw [← Json.fromKey_append] at hstring
  unfold readMember
  refine (hstring.bind (Q := fun _ => Takes d e) fun text x named hx => ?_).congr fun d' => ?_
  · obtain ⟨text, t⟩ := x
    obtain ⟨rfl, ht⟩ := Prod.mk.inj hx
    dsimp only at named ht ⊢
    have hname : String.ofList text = e.name := by
      rw [Option.some_inj.mp (named.symm.trans e.named), String.ofList_toList]
    rw [hname]
    have hcolon : Leaves (Json.colon t.text) (e.member.item.text ++ r) := by
      rw [ht]
      exact Json.leaves_colon (Json.skipSpace_behindKey e.member r)
    have hflag := settles_flag e.wellFormed e.member.item.spaces_before (e.member.item.after ++ r)
    have hcheck := settles_check e.wellFormed e.member.item.spaces_before (e.member.item.after ++ r)
    rw [← item_append] at hflag hcheck
    split
    case h_1 hname =>
      exact (settles_choice (fun k => { d with indexCheck := some k }) hcolon hcheck).congr
        fun d' => takes_indexCheck hname
    case h_2 hname =>
      exact (settles_choice (fun b => { d with strictAttributes := some b }) hcolon hflag).congr
        fun d' => takes_strictAttributes hname
    case h_3 hname =>
      exact (settles_choice (fun b => { d with validatePatterns := some b }) hcolon hflag).congr
        fun d' => takes_validatePatterns hname
    case h_4 check strict validate =>
      refine .after_leaves hcolon fun u hu => ?_
      have hskip : Leaves (Json.skipValue u.text) (e.member.item.after ++ r) := by
        rw [hu]
        exact e.wellFormed.skippable.leaves_item hr
      refine .after_leaves hskip fun v hv => ?_
      have hdone := settles_ok (readTo_mk (t := t.andThen (u.andThen v)) d hv)
      exact hdone.congr fun d' => takes_unknown check strict validate
  · constructor
    · exact fun h => ⟨_, e.named, h⟩
    · exact fun h => h.elim fun _ h => h.2

end Members

end BeanRules.Policy
