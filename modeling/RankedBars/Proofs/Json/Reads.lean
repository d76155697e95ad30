import RankedBars.Json.Reader
import RankedBars.Proofs.Json.Written

/-!
# What readers take off the front

`Gives r ts o` says that the reader takes exactly the tokens `ts` off the
front, whatever follows them, and gives the value in `o`, or refuses them when
there is none. Readers compose, and so does this: a list gives what its items
give, an object what its members put into the draft, one after the other.

Lists and objects run on fuel, one unit an item, and are given one a token.
Every item is followed by a comma or by the closing bracket, so the tokens
always suffice, and none of the statements has to mention them.
-/

namespace RankedBars

open Json (Token)

/-- The reader takes these tokens off the front and gives this value, or
refuses. -/
def Gives (r : Reader α) (ts : List Token) (o : Option α) : Prop :=
  ∀ rest, (r (ts ++ rest)).toOption = o.map fun a => (a, rest)

/-- The first token of a value closes no list. -/
def Opens (ts : List Token) : Prop := ∃ t rest, ts = t :: rest ∧ t ≠ .closeBracket

def separated : List (List Token) → List Token
  | [] => []
  | [ts] => ts
  | ts :: rest => ts ++ .comma :: separated rest

def listTokens (parts : List (List Token)) : List Token :=
  .openBracket :: (separated parts ++ [.closeBracket])

def memberTokens (name : String) (ts : List Token) : List Token :=
  .text (some name) :: .colon :: ts

/-- An object behind its opening brace. -/
def membersTokens (members : List (String × List Token)) : List Token :=
  separated (members.map fun member => memberTokens member.1 member.2) ++ [.closeBrace]

/-- What the members of an object make of a draft: each is read as its name asks
for, and the first that is refused ends it, for its name or for its value. -/
inductive Fills (field : String → σ → Except ShapeError (Reader σ)) :
    List (String × List Token) → σ → Option σ → Prop
  | nil (draft : σ) : Fills field [] draft (some draft)
  | cons {name : String} {ts : List Token} {draft next : σ} {r : Reader σ}
      {members : List (String × List Token)} {o : Option σ} (hfield : field name draft = .ok r)
      (hr : Gives r ts (some next)) (h : Fills field members next o) :
      Fills field ((name, ts) :: members) draft o
  | stop {name : String} {ts : List Token} {draft : σ} {r : Reader σ}
      {members : List (String × List Token)} (hfield : field name draft = .ok r)
      (hr : Gives r ts none) : Fills field ((name, ts) :: members) draft none
  | refused {name : String} {ts : List Token} {draft : σ} {cause : ShapeError}
      {members : List (String × List Token)} (hfield : field name draft = .error cause) :
      Fills field ((name, ts) :: members) draft none

def objectTokens (members : List (String × List Token)) : List Token :=
  .openBrace :: membersTokens members

theorem separated_cons (ts : List Token) {parts : List (List Token)} (h : parts ≠ []) :
    separated (ts :: parts) = ts ++ .comma :: separated parts := by
  obtain ⟨ts', parts, rfl⟩ := List.exists_cons_of_ne_nil h
  rfl

theorem length_le_length_separated (parts : List (List Token)) :
    parts.length ≤ (separated parts).length + 1 := by
  fun_induction separated parts with
  | case1 => exact Nat.zero_le _
  | case2 ts => exact Nat.succ_le_succ (Nat.zero_le _)
  | case3 ts parts _ ih =>
      rw [List.length_cons, List.length_append, List.length_cons]
      omega

theorem opens_text (s : String) : Opens [.text (some s)] := ⟨_, _, rfl, Token.noConfusion⟩

theorem Opens.append {ts : List Token} (h : Opens ts) (ts' : List Token) : Opens (ts ++ ts') := by
  obtain ⟨t, rest, rfl, ht⟩ := h
  exact ⟨t, rest ++ ts', rfl, ht⟩

theorem Opens.separated {ts : List Token} (h : Opens ts) (parts : List (List Token)) :
    Opens (separated (ts :: parts)) := by
  cases parts with
  | nil => exact h
  | cons ts' parts => exact h.append _

theorem exists_membersTokens_cons (name : String) (ts : List Token)
    (members : List (String × List Token)) (rest : List Token) :
    ∃ more, membersTokens ((name, ts) :: members) ++ rest = memberTokens name ts ++ more := by
  by_cases hnil : members = []
  · subst hnil
    exact ⟨_, by rw [membersTokens, List.map_singleton, separated, List.append_assoc]⟩
  · exact ⟨_, by rw [membersTokens, List.map_cons, separated_cons _ (by simpa using hnil),
      List.append_assoc, List.append_assoc]⟩

theorem toOption_map {α β : Type} (f : α → β) (r : Reader α) (ts : List Token) :
    ((f <$> r) ts).toOption = (r ts).toOption.map fun p => (f p.1, p.2) := by
  change (Except.bind (r ts) fun p => .ok (f p.1, p.2)).toOption = _
  cases r ts <;> rfl

theorem toOption_bind {α β : Type} (r : Reader α) (f : α → Reader β) (ts : List Token) :
    ((r >>= f) ts).toOption = (r ts).toOption.bind fun p => (f p.1 p.2).toOption := by
  change (Except.bind (r ts) fun p => f p.1 p.2).toOption = _
  cases r ts <;> rfl

namespace Gives

variable {α β σ : Type} {r : Reader α} {ts : List Token} {o : Option α}

theorem eq_ok {a : α} (h : Gives r ts (some a)) (rest : List Token) :
    r (ts ++ rest) = .ok (a, rest) := by
  have hrest := h rest
  cases hr : r (ts ++ rest) with
  | error e =>
      rw [hr] at hrest
      exact absurd hrest (Option.some_ne_none _).symm
  | ok p =>
      rw [hr] at hrest
      exact congrArg Except.ok (Option.some.inj hrest)

theorem exists_error (h : Gives r ts none) (rest : List Token) :
    ∃ e, r (ts ++ rest) = .error e := by
  have hrest := h rest
  cases hr : r (ts ++ rest) with
  | error e => exact ⟨e, rfl⟩
  | ok p =>
      rw [hr] at hrest
      exact absurd hrest (Option.some_ne_none _)

theorem of_ok {a : α} (h : ∀ rest, r (ts ++ rest) = .ok (a, rest)) : Gives r ts (some a) := by
  intro rest
  rw [h rest]
  rfl

theorem of_error (h : ∀ rest, ∃ e, r (ts ++ rest) = .error e) : Gives r ts none := by
  intro rest
  obtain ⟨e, he⟩ := h rest
  rw [he]
  rfl

theorem toOption_readAll (h : Gives r ts o) {text : String} (htext : Json.scan text = ts) :
    (r.readAll text).toOption = o := by
  rw [Reader.readAll, htext]
  cases o with
  | none =>
      obtain ⟨e, he⟩ := h.exists_error []
      rw [List.append_nil] at he
      rw [he]
      rfl
  | some a =>
      have ha := h.eq_ok []
      rw [List.append_nil] at ha
      rw [ha]
      rfl

theorem unique {o' : Option α} (h : Gives r ts o) (h' : Gives r ts o') : o = o' :=
  Option.map_injective (fun _ _ heq => (Prod.mk.inj heq).1) ((h []).symm.trans (h' []))

/-- What happens to a value once it is read takes no more tokens. -/
theorem bind {f : α → Reader β} (g : α → Option β) (h : Gives r ts o)
    (hf : ∀ a, Gives (f a) [] (g a)) : Gives (r >>= f) ts (o.bind g) := by
  intro rest
  rw [toOption_bind, h rest]
  cases o with
  | none => rfl
  | some a => exact hf a rest

theorem pure (a : α) : Gives (Pure.pure a) [] (some a) := of_ok fun _ => rfl

theorem map (f : α → β) (h : Gives r ts o) : Gives (f <$> r) ts (o.map f) := by
  intro rest
  rw [toOption_map, h rest]
  cases o <;> rfl

/-- What a mapped reader gives comes from a value that was read. -/
theorem exists_of_map {f : α → β} {b : β} (h : Gives (f <$> r) ts (some b)) : ∃ a, f a = b := by
  have hread := (toOption_map f r (ts ++ [])).symm.trans (h [])
  obtain ⟨p, -, hp⟩ := Option.map_eq_some_iff.mp hread
  exact ⟨p.1, (Prod.mk.inj hp).1⟩

theorem ofShape (x : Except ShapeError α) : Gives (Reader.ofShape x) [] x.toOption := by
  cases x with
  | ok a => exact pure a
  | error cause => exact of_error fun _ => ⟨_, rfl⟩

/-! ## Values of one token -/

theorem text (s : String) : Gives Reader.text [.text (some s)] (some s) := of_ok fun _ => rfl

theorem bool (b : Bool) : Gives Reader.bool [.bool b] (some b) := of_ok fun _ => rfl

theorem float (literal : Json.NumberLiteral) :
    Gives Reader.float [.number literal] (literal.value?.map (·.toBinary)) := by
  intro rest
  rw [List.singleton_append, Reader.float]
  cases literal.value? <;> rfl

/-- The whole number that a number is, if it lies in the range. -/
def inRange? (low high : Int) : Json.Number → Option Int
  | .integer value => if low ≤ value ∧ value ≤ high then some value else none
  | .float _ => none

theorem integer (expected : String) (low high : Int) (literal : Json.NumberLiteral) :
    Gives (Reader.integer expected low high) [.number literal]
      (literal.value?.bind (inRange? low high)) := by
  intro rest
  rw [List.singleton_append, Reader.integer]
  cases literal.value? with
  | none => rfl
  | some number =>
      cases number with
      | float value => rfl
      | integer value =>
          dsimp only
          rw [Option.bind_some, inRange?]
          split <;> rfl

theorem optional_null (r : Reader α) : Gives (Reader.optional r) [.null] (some none) :=
  of_ok fun _ => rfl

theorem optional {t : Token} (ht : t ≠ .null) (h : Gives r (t :: ts) o) :
    Gives (Reader.optional r) (t :: ts) (o.map some) := by
  intro rest
  rw [List.cons_append, Reader.optional]
  · exact h.map some rest
  · intro _ heq
    exact ht (List.cons.inj heq).1

/-! ## Lists -/

variable {tok : β → List Token} {val : β → Option α}

theorem items {rows : List β} (h : ∀ b ∈ rows, Gives r (tok b) (val b)) (hne : rows ≠ [])
    (fuel : Nat) (hfuel : rows.length ≤ fuel) (rest : List Token) :
    (Reader.items r fuel (separated (rows.map tok) ++ .closeBracket :: rest)).toOption
      = (rows.mapM val).map fun as => (as, rest) := by
  induction rows generalizing fuel with
  | nil => exact absurd rfl hne
  | cons b rows ih =>
      obtain ⟨fuel, rfl⟩ := Nat.exists_eq_succ_of_ne_zero
        (Nat.ne_of_gt (Nat.lt_of_lt_of_le (Nat.succ_pos _) hfuel))
      have hb := h b List.mem_cons_self
      rw [List.mapM_cons]
      cases rows with
      | nil =>
          rw [List.map_cons, List.map_nil, separated, Reader.items]
          cases hval : val b with
          | none =>
              rw [hval] at hb
              obtain ⟨e, he⟩ := hb.exists_error (.closeBracket :: rest)
              rw [he]
              rfl
          | some a =>
              rw [hval] at hb
              rw [hb.eq_ok]
              rfl
      | cons b' rows =>
          have hrest := ih (fun c hc => h c (List.mem_cons_of_mem b hc)) (List.cons_ne_nil b' rows)
            fuel (by simp only [List.length_cons] at hfuel ⊢; omega)
          rw [List.map_cons, separated_cons _ (by simp), List.append_assoc, List.cons_append,
            Reader.items]
          cases hval : val b with
          | none =>
              rw [hval] at hb
              obtain ⟨e, he⟩ := hb.exists_error
                (.comma :: (separated ((b' :: rows).map tok) ++ .closeBracket :: rest))
              rw [he]
              rfl
          | some a =>
              rw [hval] at hb
              rw [hb.eq_ok]
              dsimp only
              rw [toOption_map, hrest]
              cases (b' :: rows).mapM val <;> rfl

theorem list {rows : List β} (h : ∀ b ∈ rows, Gives r (tok b) (val b))
    (hopens : ∀ b ∈ rows, Opens (tok b)) :
    Gives (Reader.list r) (listTokens (rows.map tok)) (rows.mapM val) := by
  intro rest
  cases rows with
  | nil => rfl
  | cons b rows =>
      have hfuel := length_le_length_separated ((b :: rows).map tok)
      obtain ⟨t, tail, hsep, ht⟩ := (hopens b List.mem_cons_self).separated (rows.map tok)
      rw [← List.map_cons] at hsep
      have hitems := items h (List.cons_ne_nil b rows)
        (separated ((b :: rows).map tok) ++ .closeBracket :: rest).length (by
          rw [List.length_map] at hfuel
          simp only [List.length_append, List.length_cons] at hfuel ⊢
          omega) rest
      rw [listTokens, List.cons_append, List.append_assoc, List.singleton_append, ← hitems]
      rw [hsep, List.cons_append, Reader.list]
      exact fun _ heq => ht (List.cons.inj heq).1

/-! ## Objects -/

variable {field : String → σ → Except ShapeError (Reader σ)}

theorem members {ms : List (String × List Token)} {draft : σ} {res : Option σ}
    (h : Fills field ms draft res) (hne : ms ≠ []) (fuel : Nat) (hfuel : ms.length ≤ fuel)
    (rest : List Token) :
    (Reader.members field fuel draft (membersTokens ms ++ rest)).toOption
      = res.map fun draft => (draft, rest) := by
  induction h generalizing fuel with
  | nil => exact absurd rfl hne
  | @cons name ts draft next r ms res hfield hr h ih =>
      obtain ⟨fuel, rfl⟩ := Nat.exists_eq_succ_of_ne_zero
        (Nat.ne_of_gt (Nat.lt_of_lt_of_le (Nat.succ_pos _) hfuel))
      by_cases hms : ms = []
      · subst hms
        cases h with
        | nil =>
            rw [membersTokens, List.map_singleton, separated, List.append_assoc, memberTokens,
              List.cons_append, List.cons_append, Reader.members, hfield]
            dsimp only
            rw [List.singleton_append, hr.eq_ok]
            rfl
      · have hrest := ih hms fuel (by rw [List.length_cons] at hfuel; omega)
        rw [membersTokens, List.map_cons, separated_cons _ (by simpa using hms), List.append_assoc,
          List.append_assoc, memberTokens, List.cons_append, List.cons_append, Reader.members,
          hfield]
        dsimp only
        rw [List.cons_append, hr.eq_ok]
        dsimp only
        rw [← hrest, membersTokens, List.append_assoc]
  | @stop name ts draft r ms hfield hr =>
      obtain ⟨fuel, rfl⟩ := Nat.exists_eq_succ_of_ne_zero
        (Nat.ne_of_gt (Nat.lt_of_lt_of_le (Nat.succ_pos _) hfuel))
      -- The members behind a refused one are not looked at, so nothing is asked
      -- of them.
      obtain ⟨more, hmore⟩ := exists_membersTokens_cons name ts ms rest
      obtain ⟨e, he⟩ := hr.exists_error more
      rw [hmore, memberTokens, List.cons_append, List.cons_append, Reader.members, hfield]
      dsimp only
      rw [he]
      rfl
  | @refused name ts draft cause ms hfield =>
      obtain ⟨fuel, rfl⟩ := Nat.exists_eq_succ_of_ne_zero
        (Nat.ne_of_gt (Nat.lt_of_lt_of_le (Nat.succ_pos _) hfuel))
      obtain ⟨more, hmore⟩ := exists_membersTokens_cons name ts ms rest
      rw [hmore, memberTokens, List.cons_append, Reader.members, hfield]
      rfl

theorem object {ms : List (String × List Token)} {draft : σ} {res : Option σ}
    (h : Fills field ms draft res) :
    Gives (Reader.object field draft) (membersTokens ms) res := by
  intro rest
  by_cases hms : ms = []
  · subst hms
    cases h with
    | nil => rfl
  · have hlength := length_le_length_separated
      (ms.map fun member => memberTokens member.1 member.2)
    have hfuel : ms.length ≤ (membersTokens ms ++ rest).length := by
      rw [List.length_map] at hlength
      rw [membersTokens, List.append_assoc, List.length_append, List.length_append]
      exact hlength.trans (Nat.add_le_add_left (Nat.le_add_right 1 _) _)
    rw [← members h hms _ hfuel rest, Reader.object]
    intro tail heq
    obtain ⟨⟨name, ts⟩, ms, rfl⟩ := List.exists_cons_of_ne_nil hms
    obtain ⟨more, hmore⟩ := exists_membersTokens_cons name ts ms rest
    rw [hmore, memberTokens, List.cons_append] at heq
    exact absurd (List.cons.inj heq).1 Token.noConfusion

/-! ## Records -/

theorem record_byName {byName byOrder : Reader α} (name : String) (h : Gives byName ts o) :
    Gives (Reader.record name byName byOrder) (.openBrace :: ts) o :=
  fun rest => h rest

/-- A draft that is finished at the closing brace. -/
theorem finish {ms : List (String × List Token)} {draft : σ} {res : Option σ}
    (h : Fills field ms draft res) (done : σ → Except ShapeError α) :
    Gives (do Reader.ofShape (done (← Reader.object field draft))) (membersTokens ms)
      (res.bind fun draft => (done draft).toOption) :=
  (object h).bind _ fun draft => ofShape (done draft)

/-- A draft that is finished whatever it has. -/
theorem finish_always {ms : List (String × List Token)} {draft : σ} {res : Option σ}
    (h : Fills field ms draft res) (done : σ → α) :
    Gives (do return done (← Reader.object field draft)) (membersTokens ms) (res.map done) := by
  rw [bind_pure_comp]
  exact (object h).map done

/-! ## Values of any kind -/

def ofNumber : Json.Number → Json
  | .integer value => .integer value
  | .float value => .float value

theorem value_null (depth : Nat) : Gives (Reader.value depth) [.null] (some .null) :=
  of_ok fun _ => by rw [List.singleton_append, Reader.value]

theorem value_bool (depth : Nat) (b : Bool) :
    Gives (Reader.value depth) [.bool b] (some (.bool b)) :=
  of_ok fun _ => by rw [List.singleton_append, Reader.value]

theorem value_text (depth : Nat) (s : String) :
    Gives (Reader.value depth) [.text (some s)] (some (.text s)) :=
  of_ok fun _ => by rw [List.singleton_append, Reader.value]

theorem value_number (depth : Nat) (literal : Json.NumberLiteral) :
    Gives (Reader.value depth) [.number literal] (literal.value?.map ofNumber) := by
  intro rest
  rw [List.singleton_append, Reader.value]
  cases literal.value? with
  | none => rfl
  | some number => cases number <;> rfl

variable (depth : Nat) (rows : List β) (name : β → String) (tok : β → List Token)
  (val : β → Option Json)

theorem value_list (h : ∀ b ∈ rows, Gives (Reader.value depth) (tok b) (val b))
    (hopens : ∀ b ∈ rows, Opens (tok b)) :
    Gives (Reader.value (depth + 1)) (listTokens (rows.map tok))
      ((rows.mapM val).map Json.list) := by
  intro rest
  rw [← (list h hopens).map Json.list rest, listTokens, List.cons_append, Reader.value]

/-- What the reader of values does with a member. The draft holds the members so
far, last one first. -/
def valueField (depth : Nat) (name : String) (fields : List (String × Json)) :
    Except ShapeError (Reader (List (String × Json))) :=
  .ok ((fun value => (name, value) :: fields) <$> Reader.value depth)

theorem fills_valueField (h : ∀ b ∈ rows, Gives (Reader.value depth) (tok b) (val b))
    (fields : List (String × Json)) :
    Fills (valueField depth) (rows.map fun b => (name b, tok b)) fields
      ((rows.mapM fun b => (val b).map (name b, ·)).map fun ms => ms.reverse ++ fields) := by
  induction rows generalizing fields with
  | nil => exact .nil fields
  | cons b rows ih =>
      have hb := (h b List.mem_cons_self).map fun value => (name b, value) :: fields
      rw [List.mapM_cons, List.map_cons]
      cases hval : val b with
      | none =>
          rw [hval] at hb
          exact .stop rfl hb
      | some value =>
          rw [hval] at hb
          have hrest := ih (fun c hc => h c (List.mem_cons_of_mem b hc)) ((name b, value) :: fields)
          have hfills : Fills (valueField depth) _ fields _ := .cons rfl hb hrest
          convert hfills using 1
          cases rows.mapM fun b => (val b).map (name b, ·) with
          | none => rfl
          | some ms => simp

theorem value_object (h : ∀ b ∈ rows, Gives (Reader.value depth) (tok b) (val b)) :
    Gives (Reader.value (depth + 1)) (objectTokens (rows.map fun b => (name b, tok b)))
      ((rows.mapM fun b => (val b).map (name b, ·)).map Json.object) := by
  intro rest
  have hobject := (object (fills_valueField depth rows name tok val h [])).map
    (fun fields => Json.object fields.reverse) rest
  rw [objectTokens, List.cons_append, Reader.value]
  refine Eq.trans hobject ?_
  cases rows.mapM fun b => (val b).map (name b, ·) with
  | none => rfl
  | some ms => simp

end Gives

theorem once_eq_ok_iff {α σ : Type} {name : String} {current : Option α} {r : Reader α}
    {put : α → σ} {r' : Reader σ} :
    Reader.once name current r put = .ok r' ↔ current = none ∧ put <$> r = r' := by
  cases current <;> simp [Reader.once]

theorem Fills.once {α σ : Type} {field : String → σ → Except ShapeError (Reader σ)}
    {name : String} {ts : List Token} {draft : σ} {r : Reader α} {put : α → σ} {a : α}
    {members : List (String × List Token)} {o : Option σ}
    (hfield : field name draft = Reader.once name none r put) (hr : Gives r ts (some a))
    (h : Fills field members (put a) o) : Fills field ((name, ts) :: members) draft o :=
  .cons hfield (hr.map put) h

theorem Fills.tried {α σ : Type} {field : String → σ → Except ShapeError (Reader σ)}
    {name : String} {ts : List Token} {draft : σ} {r : Reader α} {put : α → σ}
    {members : List (String × List Token)} {o : Option α} {res : α → Option σ}
    (hfield : field name draft = Reader.once name none r put) (hr : Gives r ts o)
    (h : ∀ a, Fills field members (put a) (res a)) :
    Fills field ((name, ts) :: members) draft (o.bind res) := by
  cases o with
  | none => exact .stop hfield (hr.map put)
  | some a => exact .once hfield hr (h a)

/-- The tokens of one value in which lists and objects are nested at most
`depth` deep, whose numbers are in range and whose texts have a content. -/
inductive IsValue : (depth : Nat) → List Token → Prop
  | null (depth : Nat) : IsValue depth [.null]
  | bool (depth : Nat) (b : Bool) : IsValue depth [.bool b]
  | number (depth : Nat) {literal : Json.NumberLiteral} (h : literal.value?.isSome) :
      IsValue depth [.number literal]
  | text (depth : Nat) (s : String) : IsValue depth [.text (some s)]
  | list {depth : Nat} {parts : List (List Token)} (h : ∀ ts ∈ parts, IsValue depth ts) :
      IsValue (depth + 1) (listTokens parts)
  | object {depth : Nat} {members : List (String × List Token)}
      (h : ∀ member ∈ members, IsValue depth member.2) :
      IsValue (depth + 1) (objectTokens members)

theorem IsValue.opens {depth : Nat} {ts : List Token} (h : IsValue depth ts) : Opens ts := by
  cases h <;> exact ⟨_, _, rfl, Token.noConfusion⟩

/-- The reader of values reads every value. -/
theorem IsValue.exists_gives {depth : Nat} {ts : List Token} (h : IsValue depth ts) :
    ∃ value, Gives (Reader.value depth) ts (some value) := by
  have : Nonempty Json := ⟨.null⟩
  induction h with
  | null depth => exact ⟨_, .value_null depth⟩
  | bool depth b => exact ⟨_, .value_bool depth b⟩
  | @number depth literal h =>
      obtain ⟨number, hnumber⟩ := Option.isSome_iff_exists.mp h
      have hgives := Gives.value_number depth literal
      rw [hnumber] at hgives
      exact ⟨_, hgives⟩
  | text depth s => exact ⟨_, .value_text depth s⟩
  | @list depth parts h ih =>
      choose! value hvalue using ih
      have hgives := Gives.value_list depth parts id _ hvalue fun ts hts => (h ts hts).opens
      rw [List.map_id, show (parts.mapM fun ts => some (value ts)) = some (parts.map value)
        from List.mapM_pure] at hgives
      exact ⟨_, hgives⟩
  | @object depth members h ih =>
      choose! value hvalue using ih
      have hgives := Gives.value_object depth members Prod.fst Prod.snd _ hvalue
      simp only [Option.map_some, Prod.mk.eta, List.map_id'] at hgives
      rw [show (members.mapM fun member => some (member.1, value member))
        = some (members.map fun member => (member.1, value member)) from List.mapM_pure] at hgives
      exact ⟨_, hgives⟩

/-! ## Every list can be written -/

open Json (Writable)

theorem writable_separated {parts : List (List Token)} (h : ∀ ts ∈ parts, ∀ t ∈ ts, Writable t) :
    ∀ t ∈ separated parts, Writable t := by
  fun_induction separated parts with
  | case1 => exact fun t ht => absurd ht List.not_mem_nil
  | case2 ts => exact h ts List.mem_cons_self
  | case3 ts parts _ ih =>
      intro t ht
      rcases List.mem_append.mp ht with ht | ht
      · exact h ts List.mem_cons_self t ht
      · rcases List.mem_cons.mp ht with rfl | ht
        · exact Json.writable_mark (c := ',') rfl
        · exact ih (fun ts' hts' => h ts' (List.mem_cons_of_mem ts hts')) t ht

theorem writable_listTokens {parts : List (List Token)} (h : ∀ ts ∈ parts, ∀ t ∈ ts, Writable t) :
    ∀ t ∈ listTokens parts, Writable t := by
  intro t ht
  rcases List.mem_cons.mp ht with rfl | ht
  · exact Json.writable_mark (c := '[') rfl
  rcases List.mem_append.mp ht with ht | ht
  · exact writable_separated h t ht
  · exact List.mem_singleton.mp ht ▸ Json.writable_mark (c := ']') rfl

end RankedBars
