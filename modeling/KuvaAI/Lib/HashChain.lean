import Mathlib.Data.List.Basic
import Mathlib.Data.List.Induction
import Mathlib.Data.List.Pairwise

/-! Hash chains. The head after the first item is the digest of that item; each
later head is the digest of a link made from the head before it and the digest
of the new item. Nothing is assumed of the digest: what a chain commits to is
stated up to a collision among the strings that were hashed. -/
namespace HashChain

section

variable {β δ : Type} (digest : β → δ) (link : δ → δ → β)

def linked (head : Option δ) (content : δ) : δ :=
  match head with
  | none => content
  | some h => digest (link h content)

def extend (head : Option δ) (item : β) : δ := linked digest link head (digest item)

def links (head : Option δ) (content : δ) : List β :=
  match head with
  | none => []
  | some h => [link h content]

def inputs (head : Option δ) (item : β) : List β := item :: links link head (digest item)

def headFrom (head : Option δ) : List β → Option δ
  | [] => head
  | item :: rest => headFrom (some (extend digest link head item)) rest

def hashedFrom (head : Option δ) : List β → List β
  | [] => []
  | item :: rest =>
    inputs digest link head item ++ hashedFrom (some (extend digest link head item)) rest

/-- Two different strings of the list have one digest. -/
def Collides (strings : List β) : Prop :=
  ∃ a ∈ strings, ∃ b ∈ strings, a ≠ b ∧ digest a = digest b

/-- A link determines both its parts, and is never mistaken for an item. -/
structure Separated (link : δ → δ → β) (Item : β → Prop) : Prop where
  injective : ∀ {h c h' c'}, link h c = link h' c' → h = h' ∧ c = c'
  apart : ∀ {item h c}, Item item → item ≠ link h c

variable {digest}

theorem Collides.mono {strings more : List β} (collides : Collides digest strings)
    (sub : ∀ a ∈ strings, a ∈ more) : Collides digest more := by
  obtain ⟨a, ha, b, hb, differ, same⟩ := collides
  exact ⟨a, sub a ha, b, sub b hb, differ, same⟩

theorem not_collides_of_eq {strings : List β} {only : β} (one : ∀ a ∈ strings, a = only) :
    ¬ Collides digest strings := by
  rintro ⟨a, ha, b, hb, differ, _⟩
  exact differ ((one a ha).trans (one b hb).symm)

variable (digest) {link}

theorem headFrom_append (head : Option δ) (items more : List β) :
    headFrom digest link head (items ++ more) =
      headFrom digest link (headFrom digest link head items) more := by
  induction items generalizing head with
  | nil => rfl
  | cons item rest ih => exact ih (some (extend digest link head item))

theorem hashedFrom_append (head : Option δ) (items more : List β) :
    hashedFrom digest link head (items ++ more) =
      hashedFrom digest link head items ++
        hashedFrom digest link (headFrom digest link head items) more := by
  induction items generalizing head with
  | nil => rfl
  | cons item rest ih =>
    rw [List.cons_append, hashedFrom, hashedFrom, headFrom, ih, List.append_assoc]

theorem headFrom_concat (head : Option δ) (items : List β) (item : β) :
    headFrom digest link head (items ++ [item]) =
      some (extend digest link (headFrom digest link head items) item) := by
  rw [headFrom_append]
  rfl

theorem extend_binding {Item : β → Prop} (separated : Separated link Item)
    {head head' : Option δ} {item item' : β} (valid : Item item) (valid' : Item item')
    (same : extend digest link head item = extend digest link head' item') :
    (head = head' ∧ item = item') ∨
      Collides digest (inputs digest link head item ++ inputs digest link head' item') := by
  cases head with
  | none =>
    cases head' with
    | none =>
      by_cases equal : item = item'
      · exact .inl ⟨rfl, equal⟩
      · exact .inr ⟨item, by simp [inputs, links], item', by simp [inputs, links], equal, same⟩
    | some h' =>
      exact .inr ⟨item, by simp [inputs, links], link h' (digest item'), by simp [inputs, links],
        separated.apart valid, same⟩
  | some h =>
    cases head' with
    | none =>
      exact .inr ⟨item', by simp [inputs, links], link h (digest item), by simp [inputs, links],
        separated.apart valid', same.symm⟩
    | some h' =>
      by_cases sameLink : link h (digest item) = link h' (digest item')
      · obtain ⟨heads, digests⟩ := separated.injective sameLink
        by_cases equal : item = item'
        · exact .inl ⟨by rw [heads], equal⟩
        · exact .inr ⟨item, by simp [inputs, links], item', by simp [inputs, links], equal, digests⟩
      · exact .inr ⟨link h (digest item), by simp [inputs, links], link h' (digest item'),
          by simp [inputs, links], sameLink, same⟩

/-- The head of a chain commits to all of its items, up to a collision. -/
theorem head_binding {Item : β → Prop} (separated : Separated link Item) (xs ys : List β)
    (validX : ∀ x ∈ xs, Item x) (validY : ∀ y ∈ ys, Item y)
    (same : headFrom digest link none xs = headFrom digest link none ys) :
    xs = ys ∨ Collides digest (hashedFrom digest link none xs ++ hashedFrom digest link none ys) := by
  -- from the end: one step binds the last items, and the heads before them are equal again
  induction xs using List.reverseRecOn generalizing ys with
  | nil =>
    cases ys using List.reverseRecOn with
    | nil => exact .inl rfl
    | append_singleton ys y =>
      rw [headFrom_concat] at same
      cases same
  | append_singleton xs x ih =>
    cases ys using List.reverseRecOn with
    | nil =>
      rw [headFrom_concat] at same
      cases same
    | append_singleton ys y =>
      rw [headFrom_concat, headFrom_concat, Option.some.injEq] at same
      rcases extend_binding digest separated (validX x (by simp)) (validY y (by simp)) same with
        ⟨heads, rfl⟩ | collides
      · rcases ih ys (fun x hx => validX x (by simp [hx])) (fun y hy => validY y (by simp [hy]))
          heads with rfl | collides
        · exact .inl rfl
        · refine .inr (collides.mono ?_)
          intro a ha
          simp only [hashedFrom_append, List.mem_append] at ha ⊢
          rcases ha with ha | ha
          · exact .inl (.inl ha)
          · exact .inr (.inl ha)
      · refine .inr (collides.mono ?_)
        intro a ha
        simp only [hashedFrom_append, hashedFrom, List.append_nil, List.mem_append] at ha ⊢
        rcases ha with ha | ha
        · exact .inl (.inr ha)
        · exact .inr (.inr ha)

end

section Records

variable {β δ : Type} (digest : β → δ) (link : δ → δ → β)

/-- The digest and the head of every item that is kept. The chain moves on over
the others as well. -/
def keptFrom (head : Option δ) : List (β × Bool) → List (δ × δ)
  | [] => []
  | (item, kept) :: rest =>
    let next := extend digest link head item
    if kept then (digest item, next) :: keptFrom (some next) rest else keptFrom (some next) rest

def Verifies (head : Option δ) : List (δ × δ) → Prop
  | [] => True
  | (content, next) :: rest => next = linked digest link head content ∧ Verifies (some next) rest

def checkedFrom (head : Option δ) : List (δ × δ) → List β
  | [] => []
  | (content, next) :: rest =>
    links link head content ++ checkedFrom (some next) rest

def NoGap (items : List (β × Bool)) : Prop := items.Pairwise (fun a b => b.2 = true → a.2 = true)

theorem verifies_some_iff (head : Option δ) (record : δ × δ) (records : List (δ × δ)) :
    Verifies digest link head (record :: records) ↔
      record.2 = linked digest link head record.1 ∧
        (record :: records).IsChain (fun r next => next.2 = digest (link r.2 next.1)) := by
  induction records generalizing head record with
  | nil => simp [Verifies]
  | cons next rest ih =>
    rw [Verifies, ih (some record.2) next, List.isChain_cons_cons]
    rfl

/-- Records verify from the start when the first head is its own digest and each
later one hashes the head before it with its own digest. -/
theorem verifies_iff (records : List (δ × δ)) :
    Verifies digest link none records ↔
      (∀ record ∈ records.head?, record.2 = record.1) ∧
        records.IsChain (fun record next => next.2 = digest (link record.2 next.1)) := by
  cases records with
  | nil => simp [Verifies]
  | cons record rest => simp [verifies_some_iff, linked]

theorem checkedFrom_none (records : List (δ × δ)) :
    checkedFrom link none records =
      (records.zip records.tail).map (fun pair => link pair.1.2 pair.2.1) := by
  cases records with
  | nil => rfl
  | cons record rest =>
    simp only [checkedFrom, links, List.nil_append, List.tail_cons]
    induction rest generalizing record with
    | nil => rfl
    | cons next rest ih => simp [checkedFrom, links, ih next]

theorem keptFrom_dropped (head : Option δ) (items : List (β × Bool))
    (dropped : ∀ e ∈ items, e.2 = false) : keptFrom digest link head items = [] := by
  induction items generalizing head with
  | nil => rfl
  | cons e rest ih =>
    obtain ⟨item, kept⟩ := e
    have off : kept = false := dropped (item, kept) List.mem_cons_self
    simp [keptFrom, off, ih _ (fun e he => dropped e (List.mem_cons_of_mem _ he))]

theorem verifies_of_noGap (head : Option δ) (items : List (β × Bool)) (noGap : NoGap items) :
    Verifies digest link head (keptFrom digest link head items) := by
  induction items generalizing head with
  | nil => trivial
  | cons e rest ih =>
    obtain ⟨item, kept⟩ := e
    obtain ⟨first, tail⟩ := List.pairwise_cons.mp noGap
    cases kept with
    | true => exact ⟨rfl, ih _ tail⟩
    | false =>
      have dropped : ∀ e ∈ rest, e.2 = false := by
        intro e he
        cases on : e.2 with
        | false => rfl
        | true => cases first e he on
      simp [keptFrom, keptFrom_dropped digest link _ rest dropped, Verifies]

theorem keptFrom_skip (head : Option δ) (skipped : List (β × Bool)) (item : β)
    (rest : List (β × Bool)) (dropped : ∀ e ∈ skipped, e.2 = false) :
    keptFrom digest link head (skipped ++ (item, true) :: rest) =
      (digest item, extend digest link (headFrom digest link head (skipped.map Prod.fst)) item) ::
        keptFrom digest link
          (some (extend digest link (headFrom digest link head (skipped.map Prod.fst)) item)) rest := by
  induction skipped generalizing head with
  | nil => simp [keptFrom, headFrom]
  | cons e skipped ih =>
    obtain ⟨b, kept⟩ := e
    have off : kept = false := dropped (b, kept) List.mem_cons_self
    simp [keptFrom, off, headFrom, ih _ (fun e he => dropped e (List.mem_cons_of_mem _ he))]

theorem first_kept (items : List (β × Bool)) (some_kept : ¬ ∀ e ∈ items, e.2 = false) :
    ∃ skipped item rest, items = skipped ++ (item, true) :: rest ∧
      ∀ e ∈ skipped, e.2 = false := by
  cases found : items.find? (fun e => e.2) with
  | none => exact absurd (by simpa using List.find?_eq_none.mp found) some_kept
  | some e =>
    obtain ⟨on, skipped, rest, split, off⟩ := List.find?_eq_some_iff_append.mp found
    obtain ⟨item, kept⟩ := e
    cases on
    exact ⟨skipped, item, rest, split, by simpa using off⟩

variable {link}

/-- A verifier that lags behind the chain by at least one item and still agrees
on the next head has met a collision. -/
theorem lagging_head {Item : β → Prop} (separated : Separated link Item)
    (past lost : List β) (some_lost : lost ≠ []) (next : β)
    (validPast : ∀ b ∈ past, Item b) (validLost : ∀ b ∈ lost, Item b) (validNext : Item next)
    (agree : extend digest link (headFrom digest link none (past ++ lost)) next =
      extend digest link (headFrom digest link none past) next) :
    Collides digest (hashedFrom digest link none (past ++ lost ++ [next]) ++
      inputs digest link (headFrom digest link none past) next) := by
  rcases extend_binding digest separated validNext validNext agree with ⟨heads, _⟩ | collides
  · have valid : ∀ b ∈ past ++ lost, Item b :=
      List.forall_mem_append.mpr ⟨validPast, validLost⟩
    rcases head_binding digest separated _ _ valid validPast heads with equal | collides
    · exact absurd (List.append_right_eq_self.mp equal) some_lost
    · refine collides.mono ?_
      intro a ha
      simp only [hashedFrom_append, List.mem_append] at ha ⊢
      tauto
  · refine collides.mono ?_
    intro a ha
    simp only [hashedFrom_append, hashedFrom, List.append_nil, List.mem_append] at ha ⊢
    tauto

theorem gap_collides {Item : β → Prop} (separated : Separated link Item) (past : List β)
    (lost : List (β × Bool)) (someLost : lost ≠ []) (off : ∀ e ∈ lost, e.2 = false) (next : β)
    (more : List (β × Bool)) (validPast : ∀ b ∈ past, Item b)
    (validLost : ∀ b ∈ lost.map Prod.fst, Item b) (validNext : Item next)
    (verifies : Verifies digest link (headFrom digest link none past)
      (keptFrom digest link (headFrom digest link none past) (lost ++ (next, true) :: more))) :
    Collides digest
      (hashedFrom digest link none (past ++ (lost ++ (next, true) :: more).map Prod.fst) ++
        checkedFrom link (headFrom digest link none past)
          (keptFrom digest link (headFrom digest link none past) (lost ++ (next, true) :: more))) := by
  have kept := keptFrom_skip digest link (headFrom digest link none past) lost next more off
  rw [kept] at verifies ⊢
  rw [← headFrom_append] at verifies ⊢
  have collides := lagging_head digest separated past (lost.map Prod.fst) (by simp [someLost]) next
    validPast validLost validNext verifies.1
  refine collides.mono ?_
  intro a ha
  simp only [inputs, List.map_append, List.map_cons, headFrom_append, hashedFrom_append,
    hashedFrom, checkedFrom, List.append_nil, List.mem_append, List.mem_cons] at ha ⊢
  tauto

theorem noGap_of_verifies {Item : β → Prop} (separated : Separated link Item)
    (past : List β) (items : List (β × Bool))
    (validPast : ∀ b ∈ past, Item b) (valid : ∀ e ∈ items, Item e.1)
    (verifies : Verifies digest link (headFrom digest link none past)
      (keptFrom digest link (headFrom digest link none past) items)) :
    NoGap items ∨
      Collides digest (hashedFrom digest link none (past ++ items.map Prod.fst) ++
        checkedFrom link (headFrom digest link none past)
          (keptFrom digest link (headFrom digest link none past) items)) := by
  induction items generalizing past with
  | nil => exact .inl List.Pairwise.nil
  | cons e rest ih =>
    obtain ⟨item, kept⟩ := e
    have validItem : Item item := valid (item, kept) List.mem_cons_self
    have validRest : ∀ e ∈ rest, Item e.1 := fun e he => valid e (List.mem_cons_of_mem _ he)
    cases kept with
    | true =>
      have validNext : ∀ b ∈ past ++ [item], Item b :=
        List.forall_mem_append.mpr ⟨validPast, List.forall_mem_singleton.mpr validItem⟩
      have step := ih (past ++ [item]) validNext validRest
      rw [headFrom_concat] at step
      rcases step verifies.2 with noGap | collides
      · exact .inl (List.pairwise_cons.mpr ⟨fun _ _ _ => rfl, noGap⟩)
      · refine .inr (collides.mono ?_)
        intro a ha
        simp only [keptFrom, checkedFrom, List.mem_append, List.append_assoc, List.map_cons,
          List.singleton_append, if_true] at ha ⊢
        rcases ha with ha | ha
        · exact .inl ha
        · exact .inr (.inr ha)
    | false =>
      by_cases dropped : ∀ e ∈ rest, e.2 = false
      · refine .inl (List.pairwise_of_forall_mem_list ?_)
        intro a _ b hb on
        rcases List.mem_cons.mp hb with rfl | hb
        · cases on
        · rw [dropped b hb] at on
          cases on
      · -- the first item kept later is the next one for a verifier that has not seen `lost`
        obtain ⟨skipped, next, more, split, off⟩ := first_kept rest dropped
        subst split
        let lost := (item, false) :: skipped
        have validLost : ∀ b ∈ lost.map Prod.fst, Item b := by
          intro b hb
          obtain ⟨e, he, rfl⟩ := List.mem_map.mp hb
          rcases List.mem_cons.mp he with rfl | he
          · exact validItem
          · exact validRest e (by simp [he])
        exact .inr (gap_collides digest separated past lost (by simp [lost]) (by simpa [lost] using off)
          next more validPast validLost (validRest (next, true) (by simp)) verifies)

end Records

end HashChain
