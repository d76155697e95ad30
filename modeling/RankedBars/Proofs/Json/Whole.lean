import RankedBars.Proofs.Json.Reads

/-!
# Values are taken whole

A reader that stands in front of a value takes all of it or refuses it
(`TakesWhole`). It does not stop inside the value, and it does not run on into
what follows, so a reader of members is in front of a name again whenever a
member was taken, whatever its value.

The values are those of the grammar, of any depth, with numbers of any size.
Only few of them are of the kind that a reader asks for, but all of them are
closed by their own brackets. A field that nobody asks for is passed over with
these brackets as the stack.
-/

namespace RankedBars

open Json (Token)

variable {α β σ : Type}

/-- The tokens of one value of any kind and any depth. -/
inductive OneValue : List Token → Prop
  | null : OneValue [.null]
  | bool (b : Bool) : OneValue [.bool b]
  | number (literal : Json.NumberLiteral) : OneValue [.number literal]
  | text (s : String) : OneValue [.text (some s)]
  | list {parts : List (List Token)} (h : ∀ ts ∈ parts, OneValue ts) :
      OneValue (listTokens parts)
  | object {members : List (String × List Token)} (h : ∀ member ∈ members, OneValue member.2) :
      OneValue (objectTokens members)

theorem OneValue.opens {ts : List Token} (h : OneValue ts) : Opens ts := by
  cases h <;> exact ⟨_, _, rfl, Token.noConfusion⟩

/-- In front of a value the reader takes all of it or refuses it. -/
def TakesWhole (r : Reader α) : Prop := ∀ ⦃ts : List Token⦄, OneValue ts → ∃ o, Gives r ts o

/-- A value is refused at its first token. -/
theorem Gives.refused {r : Reader α} {t : Token} {ts : List Token}
    (h : ∀ rest, ∃ e, r (t :: rest) = .error e) : Gives r (t :: ts) none :=
  .of_error fun rest => h (ts ++ rest)

namespace TakesWhole

variable {r : Reader α}

theorem map (f : α → β) (h : TakesWhole r) : TakesWhole (f <$> r) := by
  intro ts hts
  obtain ⟨o, ho⟩ := h hts
  exact ⟨_, ho.map f⟩

theorem bind {f : α → Reader β} (g : α → Option β) (h : TakesWhole r)
    (hf : ∀ a, Gives (f a) [] (g a)) : TakesWhole (r >>= f) := by
  intro ts hts
  obtain ⟨o, ho⟩ := h hts
  exact ⟨_, ho.bind g hf⟩

theorem once {name : String} {current : Option α} {put : α → σ} {r' : Reader σ}
    (h : TakesWhole r) (hfield : Reader.once name current r put = .ok r') : TakesWhole r' := by
  obtain ⟨-, rfl⟩ := once_eq_ok_iff.mp hfield
  exact h.map put

/-! ## Values of one token -/

theorem text : TakesWhole Reader.text := by
  intro ts hts
  cases hts with
  | text s => exact ⟨_, .text s⟩
  | _ => exact ⟨none, .refused fun _ => ⟨_, rfl⟩⟩

theorem integer (expected : String) (low high : Int) :
    TakesWhole (Reader.integer expected low high) := by
  intro ts hts
  cases hts with
  | number literal => exact ⟨_, .integer expected low high literal⟩
  | _ => exact ⟨none, .refused fun _ => ⟨_, rfl⟩⟩

theorem int64 : TakesWhole Reader.int64 := integer _ _ _

theorem uint32 : TakesWhole Reader.uint32 := (integer _ _ _).map _

theorem optional (h : TakesWhole r) : TakesWhole (Reader.optional r) := by
  intro ts hts
  obtain ⟨o, ho⟩ := h hts
  cases hts with
  | null => exact ⟨_, .optional_null r⟩
  | _ => exact ⟨_, ho.optional Token.noConfusion⟩

/-! ## Lists and objects -/

theorem list (h : TakesWhole r) : TakesWhole (Reader.list r) := by
  intro ts hts
  cases hts with
  | @list parts hparts =>
      choose! o ho using fun ts hts => h (hparts ts hts)
      have hlist := Gives.list ho fun ts hts => (hparts ts hts).opens
      rw [List.map_id'] at hlist
      exact ⟨_, hlist⟩
  | _ => exact ⟨none, .refused fun _ => ⟨_, rfl⟩⟩

end TakesWhole

/-- An object of values is read to its end or refused, if every field takes its
value whole. -/
theorem exists_fills {field : String → σ → Except ShapeError (Reader σ)}
    (hfield : ∀ name draft r, field name draft = .ok r → TakesWhole r)
    {members : List (String × List Token)} (h : ∀ member ∈ members, OneValue member.2)
    (draft : σ) : ∃ o, Fills field members draft o := by
  induction members generalizing draft with
  | nil => exact ⟨_, .nil draft⟩
  | cons member members ih =>
      cases hr : field member.1 draft with
      | error cause => exact ⟨none, .refused hr⟩
      | ok r =>
          obtain ⟨o, ho⟩ := hfield _ _ _ hr (h member List.mem_cons_self)
          cases o with
          | none => exact ⟨none, .stop hr ho⟩
          | some next =>
              obtain ⟨o, hfills⟩ := ih (fun m hm => h m (List.mem_cons_of_mem member hm)) next
              exact ⟨o, .cons hr ho hfills⟩

/-! ## Values that are not asked for -/

open Reader (skipFrom passToken Enclosing)

theorem passToken_valueOrEnd {t : Token} (ht : t ≠ .closeBracket) (outer : List Enclosing) :
    passToken .valueOrEnd outer t = passToken .value outer t := by
  rw [passToken, passToken]
  exact fun _ _ h => ht h

theorem skipFrom_valueOrEnd {ts : List Token} (h : Opens ts) (outer : List Enclosing) :
    skipFrom .valueOrEnd outer ts = skipFrom .value outer ts := by
  obtain ⟨t, rest, rfl, ht⟩ := h
  rw [skipFrom, skipFrom, passToken_valueOrEnd ht] <;> exact nofun

theorem skipFrom_separated {parts : List (List Token)} (hne : parts ≠ [])
    (h : ∀ ts ∈ parts, ∀ outer rest, skipFrom .value outer (ts ++ rest) = skipFrom .next outer rest)
    (outer : List Enclosing) (rest : List Token) :
    skipFrom .value (.list :: outer) (separated parts ++ .closeBracket :: rest)
      = skipFrom .next outer rest := by
  induction parts with
  | nil => exact absurd rfl hne
  | cons ts parts ih =>
      have hts := h ts List.mem_cons_self (.list :: outer)
      by_cases hnil : parts = []
      · rw [hnil, separated, hts]
        rfl
      · rw [separated_cons _ hnil, List.append_assoc, hts, List.cons_append]
        exact ih hnil fun ts' hts' => h ts' (List.mem_cons_of_mem ts hts')

theorem skipFrom_members {members : List (String × List Token)} (hne : members ≠ [])
    (h : ∀ member ∈ members, ∀ outer rest,
      skipFrom .value outer (member.2 ++ rest) = skipFrom .next outer rest)
    (outer : List Enclosing) (rest : List Token) :
    skipFrom .name (.object :: outer) (membersTokens members ++ rest)
      = skipFrom .next outer rest := by
  induction members with
  | nil => exact absurd rfl hne
  | cons member members ih =>
      have hmember := h member List.mem_cons_self (.object :: outer)
      by_cases hnil : members = []
      · rw [hnil, membersTokens, List.map_singleton, separated, List.append_assoc, memberTokens]
        exact hmember _
      · have htail := ih hnil fun member' hmember' =>
          h member' (List.mem_cons_of_mem member hmember')
        rw [membersTokens, List.append_assoc] at htail
        rw [membersTokens, List.map_cons, separated_cons _ (by simpa using hnil), memberTokens,
          List.append_assoc, List.append_assoc]
        refine (hmember _).trans ?_
        rw [← htail]
        rfl

/-- A value is passed over up to its end, whatever encloses it. -/
theorem OneValue.skipFrom_eq {ts : List Token} (h : OneValue ts) (outer : List Enclosing)
    (rest : List Token) : skipFrom .value outer (ts ++ rest) = skipFrom .next outer rest := by
  induction h generalizing outer rest with
  | null | bool _ | number _ | text _ => rfl
  | @list parts hparts ih =>
      rw [listTokens, List.cons_append, List.append_assoc, List.singleton_append]
      change skipFrom .valueOrEnd (.list :: outer) _ = _
      by_cases hnil : parts = []
      · rw [hnil]
        rfl
      · obtain ⟨ts, parts', rfl⟩ := List.exists_cons_of_ne_nil hnil
        have hopens := (hparts ts List.mem_cons_self).opens.separated parts'
        rw [skipFrom_valueOrEnd (hopens.append _)]
        exact skipFrom_separated hnil ih outer rest
  | @object members hmembers ih =>
      rw [objectTokens, List.cons_append]
      change skipFrom .nameOrEnd (.object :: outer) _ = _
      by_cases hnil : members = []
      · rw [hnil]
        rfl
      · rw [← skipFrom_members hnil ih outer rest]
        obtain ⟨⟨name, ts⟩, members', rfl⟩ := List.exists_cons_of_ne_nil hnil
        obtain ⟨more, hmore⟩ := exists_membersTokens_cons name ts members' rest
        rw [hmore]
        rfl

theorem OneValue.gives_skip {ts : List Token} (h : OneValue ts) : Gives Reader.skip ts (some ()) :=
  .of_ok fun rest => (h.skipFrom_eq [] rest).trans (by cases rest <;> rfl)

/-! ## Records -/

/-- What is left of a list before its closing bracket. -/
def remaining : (first : Bool) → List (List Token) → List Token
  | true, parts => separated parts
  | false, parts => parts.flatMap (.comma :: ·)

theorem separated_cons_eq (ts : List Token) (parts : List (List Token)) :
    separated (ts :: parts) = ts ++ remaining false parts := by
  induction parts generalizing ts with
  | nil => exact (List.append_nil ts).symm
  | cons ts' parts ih =>
      rw [separated_cons ts (List.cons_ne_nil ts' parts), ih]
      rfl

/-- In front of these items of a list the reader gives a value and leaves some
of them, or refuses. -/
def GivesPart (first : Bool) (r : Reader α) (parts : List (List Token))
    (o : Option (α × List (List Token))) : Prop :=
  ∀ rest, (r (remaining first parts ++ .closeBracket :: rest)).toOption
    = o.map fun p => (p.1, remaining false p.2 ++ .closeBracket :: rest)

namespace GivesPart

variable {first : Bool} {r : Reader α} {ts : List Token} {parts left : List (List Token)}

theorem pure (a : α) (parts : List (List Token)) :
    GivesPart false (Pure.pure a) parts (some (a, parts)) := fun _ => rfl

theorem bind {f : α → Reader β} {a : α} {o : Option (β × List (List Token))}
    (h : GivesPart first r parts (some (a, left))) (hf : GivesPart false (f a) left o) :
    GivesPart first (r >>= f) parts o := by
  intro rest
  rw [toOption_bind, h rest]
  exact hf rest

theorem bind_none {f : α → Reader β} (h : GivesPart first r parts none) :
    GivesPart first (r >>= f) parts none := by
  intro rest
  rw [toOption_bind, h rest]
  rfl

theorem map (f : α → β) {o : Option (α × List (List Token))} (h : GivesPart first r parts o) :
    GivesPart first (f <$> r) parts (o.map fun p => (f p.1, p.2)) := by
  intro rest
  rw [toOption_map, h rest, Option.map_map, Option.map_map]
  rfl

theorem element?_nil (first : Bool) (r : Reader α) :
    GivesPart first (Reader.element? first r) [] (some (none, [])) := by
  cases first <;> exact fun _ => rfl

theorem element?_true (r : Reader α) {t : Token} (ht : t ≠ .closeBracket) (rest : List Token) :
    Reader.element? true r (t :: rest) = (some <$> r) (t :: rest) := by
  cases t with
  | closeBracket => exact absurd rfl ht
  | _ => rfl

theorem element?_cons {o : Option α} (h : Gives r ts o) (hopens : Opens ts) (first : Bool)
    (parts : List (List Token)) :
    GivesPart first (Reader.element? first r) (ts :: parts) (o.map fun a => (some a, parts)) := by
  intro rest
  have hread : ((some <$> r) (ts ++ (remaining false parts ++ .closeBracket :: rest))).toOption
      = (o.map fun a => (some a, parts)).map
        fun p => (p.1, remaining false p.2 ++ .closeBracket :: rest) := by
    rw [h.map some, Option.map_map, Option.map_map]
    rfl
  rw [← hread, ← List.append_assoc]
  cases first with
  | true =>
      rw [remaining, separated_cons_eq]
      obtain ⟨t, tail, rfl, ht⟩ := hopens
      exact congrArg Except.toOption (element?_true r ht _)
  | false => rfl

theorem element {a : α} (h : Gives r ts (some a)) (hopens : Opens ts) (expected : String)
    (index : Nat) (parts : List (List Token)) :
    GivesPart (index == 0) (Reader.element expected index r) (ts :: parts) (some (a, parts)) :=
  (element?_cons h hopens _ parts).bind (.pure a parts)

theorem elementOr {a : α} (h : Gives r ts (some a)) (hopens : Opens ts) (index : Nat)
    (default : α) (parts : List (List Token)) :
    GivesPart (index == 0) (Reader.elementOr index default r) (ts :: parts) (some (a, parts)) :=
  (element?_cons h hopens _ parts).map _

theorem elementOr_nil (r : Reader α) (index : Nat) (default : α) :
    GivesPart (index == 0) (Reader.elementOr index default r) [] (some (default, [])) :=
  (element?_nil _ r).map _

/-- A list is a record if nothing of it is left. -/
theorem record {byName byOrder : Reader α} {o : Option (α × List (List Token))}
    (h : GivesPart true byOrder parts o) (name : String) :
    Gives (Reader.record name byName byOrder) (listTokens parts)
      (o.bind fun p => if p.2 = [] then some p.1 else none) := by
  intro rest
  have hread := h rest
  rw [remaining] at hread
  rw [listTokens, List.cons_append, List.append_assoc, List.singleton_append, Reader.record]
  cases hparts : byOrder (separated parts ++ .closeBracket :: rest) with
  | error e =>
      rw [hparts] at hread
      rw [Option.map_eq_none_iff.mp hread.symm]
      rfl
  | ok p =>
      rw [hparts] at hread
      obtain ⟨⟨a, left⟩, rfl, hp⟩ := Option.map_eq_some_iff.mp hread.symm
      rw [← hp]
      cases left <;> rfl

end GivesPart

/-- In front of values the reader takes some of them whole, or refuses. -/
def TakesParts (first : Bool) (r : Reader α) : Prop :=
  ∀ ⦃parts : List (List Token)⦄, (∀ ts ∈ parts, OneValue ts) →
    ∃ o, GivesPart first r parts o ∧ ∀ p ∈ o, ∀ ts ∈ p.2, OneValue ts

namespace TakesParts

variable {first : Bool} {r : Reader α}

theorem pure (a : α) : TakesParts false (Pure.pure a) :=
  fun parts hparts => ⟨_, .pure a parts, fun _ hp => Option.mem_some.mp hp ▸ hparts⟩

theorem bind {f : α → Reader β} (h : TakesParts first r) (hf : ∀ a, TakesParts false (f a)) :
    TakesParts first (r >>= f) := by
  intro parts hparts
  obtain ⟨o, ho, hleft⟩ := h hparts
  cases o with
  | none => exact ⟨none, ho.bind_none, nofun⟩
  | some p =>
      obtain ⟨o', ho', hleft'⟩ := hf p.1 (hleft p rfl)
      exact ⟨o', ho.bind ho', hleft'⟩

theorem map (f : α → β) (h : TakesParts first r) : TakesParts first (f <$> r) := by
  intro parts hparts
  obtain ⟨o, ho, hleft⟩ := h hparts
  refine ⟨_, ho.map f, fun p hp => ?_⟩
  obtain ⟨q, hq, rfl⟩ := Option.mem_map.mp hp
  exact hleft q hq

theorem element? (h : TakesWhole r) (first : Bool) :
    TakesParts first (Reader.element? first r) := by
  intro parts hparts
  cases parts with
  | nil =>
      refine ⟨_, .element?_nil first r, fun p hp => ?_⟩
      rw [← Option.mem_some.mp hp]
      exact nofun
  | cons ts parts =>
      have hts := hparts ts List.mem_cons_self
      obtain ⟨o, ho⟩ := h hts
      refine ⟨_, .element?_cons ho hts.opens first parts, fun p hp => ?_⟩
      obtain ⟨a, -, rfl⟩ := Option.mem_map.mp hp
      exact fun ts' hts' => hparts ts' (List.mem_cons_of_mem ts hts')

theorem element (h : TakesWhole r) (expected : String) (index : Nat) :
    TakesParts (index == 0) (Reader.element expected index r) := by
  refine bind (element? h _) fun found => ?_
  cases found with
  | none => exact fun _ _ => ⟨none, fun _ => rfl, nofun⟩
  | some a => exact pure a

theorem elementOr (h : TakesWhole r) (index : Nat) (default : α) :
    TakesParts (index == 0) (Reader.elementOr index default r) :=
  map _ (element? h _)

end TakesParts

theorem TakesWhole.record {byName byOrder : Reader α} (name : String)
    (hname : ∀ members : List (String × List Token), (∀ member ∈ members, OneValue member.2) →
      ∃ o, Gives byName (membersTokens members) o)
    (horder : TakesParts true byOrder) : TakesWhole (Reader.record name byName byOrder) := by
  intro ts hts
  cases hts with
  | @list parts hparts =>
      obtain ⟨o, ho, -⟩ := horder hparts
      exact ⟨_, ho.record name⟩
  | @object members hmembers =>
      obtain ⟨o, ho⟩ := hname members hmembers
      exact ⟨o, ho.record_byName name⟩
  | _ => exact ⟨none, .refused fun _ => ⟨_, rfl⟩⟩

end RankedBars
