import SchemaBinder.Proofs.Setting
import SchemaBinder.Yaml.Reader
/-!
# Settings that are read from YAML

A setting that is read from a text in YAML is fitting (`Yaml.fitting_of_read?`).

The reader hands on the values behind anchors, so its invariant is about both: if the values behind
anchors are fitting, then so are the value that is read and the values behind anchors afterwards
(`Yaml.Yields`).  All its functions call each other with less fuel, and one induction on the fuel
proves the invariant of all of them (`Yaml.reads`).
-/

namespace SchemaBinder.Yaml

/-- The value of a node is fitting. -/
def Node.Fitting (n : Node) : Prop := n.value.Fitting

/-- The values behind anchors are fitting. -/
def Context.Fitting (ctx : Context) : Prop :=
  ∀ anchor ∈ ctx.anchors, ∀ n, anchor.2 = some n → n.Fitting

/-! ## Values -/

section Values

variable {tag : Option String} {bare : Setting} {n : Node} {ctx : Context}

theorem fitting_coreScalar (tag s : String) : (coreScalar tag s).Fitting := by
  unfold coreScalar
  split
  · split
    · exact .null
    · exact .unknown
  · cases Setting.Plain.bool? s with
    | none => exact .unknown
    | some b => exact .bool b
  · cases whole : (Setting.Plain.whole? s).bind Setting.Plain.ofWhole? with
    | none => exact .unknown
    | some v =>
      obtain ⟨n, _, fits⟩ := Option.bind_eq_some_iff.1 whole
      exact Setting.Plain.fitting_of_ofWhole? fits
  · cases number : Setting.Plain.number? s with
    | none => exact .unknown
    | some v => exact Setting.Plain.fitting_of_number? number
  · exact .text s

theorem fitting_scalarValue (tag : Option String) (isPlain : Bool) (s : String) :
    (scalarValue tag isPlain s).Fitting := by
  cases tag with
  | none => cases isPlain <;> constructor
  | some t =>
    refine .marked _ ?_
    split
    · exact .unknown
    · exact fitting_coreScalar t s

theorem fitting_collectionValue (fitting : bare.Fitting) : (collectionValue tag bare).Fitting := by
  unfold collectionValue
  split
  · split
    · exact .marked _ .unknown
    · exact fitting
  · exact fitting

theorem fitting_scalarNode (tag : Option String) (isPlain : Bool) (s : String) :
    Node.Fitting ⟨scalarValue tag isPlain s, 0, 1⟩ :=
  fitting_scalarValue tag isPlain s

theorem fitting_emptyNode : emptyNode.Fitting := .plain ""

theorem fitting_listNode {items : List Node} (each : ∀ n ∈ items, n.Fitting) :
    (listNode tag items).Fitting := by
  refine fitting_collectionValue (.list fun v member => ?_)
  obtain ⟨n, there, rfl⟩ := List.mem_map.1 member
  exact each n there

theorem fitting_of_mapM {fields : List (Node × Node)} {pairs : List (String × Setting)}
    (each : ∀ field ∈ fields, field.2.Fitting)
    (made : (fields.mapM fun (k, v) => (keyText? k).map (·, v.value)) = some pairs) :
    ∀ pair ∈ pairs, pair.2.Fitting := by
  induction fields generalizing pairs with
  | nil =>
    cases made
    exact List.forall_mem_nil _
  | cons field rest ih =>
    obtain ⟨here, later⟩ := List.forall_mem_cons.1 each
    rw [List.mapM_cons] at made
    obtain ⟨pair, first, more⟩ := Option.bind_eq_some_iff.1 made
    obtain ⟨others, following, same⟩ := Option.bind_eq_some_iff.1 more
    obtain ⟨key, _, rfl⟩ := Option.map_eq_some_iff.1 first
    cases same
    exact List.forall_mem_cons.2 ⟨here, ih later following⟩

theorem fitting_tableNode {fields : List (Node × Node)} (each : ∀ field ∈ fields, field.2.Fitting) :
    (tableNode tag fields).Fitting := by
  refine fitting_collectionValue ?_
  split
  · next pairs made => exact .table (fitting_of_mapM each made)
  · exact .unknown

theorem fitting_pairNode {k v : Node} (value : v.Fitting) : (tableNode tag [(k, v)]).Fitting :=
  fitting_tableNode (List.forall_mem_cons.2 ⟨value, List.forall_mem_nil _⟩)

theorem fitting_of_aliasNode? {name : String} (fitting : ctx.Fitting)
    (found : ctx.aliasNode? name = some n) : n.Fitting := by
  obtain ⟨node, there, rfl⟩ := Option.map_eq_some_iff.1 found
  cases node with
  | none => exact .unknown
  | some n => exact fitting _ (Assoc.mem_of_get? there) n rfl

theorem Context.Fitting.bind {anchor : Option String} {node : Option Node} (fitting : ctx.Fitting)
    (value : ∀ n, node = some n → n.Fitting) : (ctx.bind anchor node).Fitting := by
  cases anchor with
  | none => exact fitting
  | some a => exact List.forall_mem_cons.2 ⟨value, fitting⟩

end Values

/-! ## What a reader yields -/

section Yields

variable {α β : Type} {P : α → Prop} {Q : β → Prop}

/-- What is read has a property, and the values behind anchors are fitting afterwards. -/
def Yields (P : α → Prop) (read : Option (α × Context × List Token)) : Prop :=
  ∀ a ctx ts, read = some (a, ctx, ts) → P a ∧ ctx.Fitting

theorem yields_none : Yields P none := by
  rintro _ _ _ ⟨⟩

theorem yields_some {a : α} {ctx : Context} {ts : List Token} (holds : P a)
    (fitting : ctx.Fitting) : Yields P (some (a, ctx, ts)) := by
  rintro _ _ _ ⟨⟩
  exact ⟨holds, fitting⟩

theorem Yields.bind {read : Option (α × Context × List Token)}
    {next : α × Context × List Token → Option (β × Context × List Token)} (first : Yields P read)
    (rest : ∀ a ctx ts, P a → ctx.Fitting → Yields Q (next (a, ctx, ts))) :
    Yields Q (read >>= next) := by
  intro b ctx ts done
  obtain ⟨⟨a, middle, left⟩, found, following⟩ := Option.bind_eq_some_iff.1 done
  obtain ⟨holds, fitting⟩ := first a middle left found
  exact rest a middle left holds fitting b ctx ts following

/-- Whatever is found first, the rest yields a value. -/
theorem yields_of_forall {γ : Type} {found : Option γ}
    {next : γ → Option (β × Context × List Token)} (rest : ∀ c, Yields Q (next c)) :
    Yields Q (found >>= next) := by
  intro b ctx ts done
  obtain ⟨c, _, following⟩ := Option.bind_eq_some_iff.1 done
  exact rest c b ctx ts following

theorem yields_ite {c : Prop} [Decidable c] {read other : Option (α × Context × List Token)}
    (first : Yields P read) (second : Yields P other) :
    Yields P (if c then read else other) := by
  split
  · exact first
  · exact second

/-- A value is read, or it is left out. -/
theorem Yields.bind_ite {c : Prop} [Decidable c] {left read : Option (α × Context × List Token)}
    {next : α × Context × List Token → Option (β × Context × List Token)} (first : Yields P left)
    (second : Yields P read)
    (rest : ∀ a ctx ts, P a → ctx.Fitting → Yields Q (next (a, ctx, ts))) :
    Yields Q (if c then left >>= next else read >>= next) :=
  yields_ite (first.bind rest) (second.bind rest)

/-- What is read is the value behind an anchor, if there is one. -/
theorem yields_close {n : Node} {ctx : Context} {anchor : Option String} {ts : List Token}
    (value : n.Fitting) (fitting : ctx.Fitting) :
    Yields Node.Fitting (some (n, ctx.bind anchor (some n), ts)) := by
  refine yields_some value (fitting.bind ?_)
  rintro _ ⟨⟩
  exact value

end Yields

/-! ## Reading -/

/-- What the functions of the reader yield with some fuel. -/
structure Reads (fuel : Nat) : Prop where
  node (block loose : Bool) (ctx : Context) (ts : List Token) : ctx.Fitting →
    Yields Node.Fitting (node? block loose fuel ctx ts)
  entries (indented : Bool) (ctx : Context) (ts : List Token) : ctx.Fitting →
    Yields (∀ n ∈ ·, n.Fitting) (entries? indented fuel ctx ts)
  blockFields (ctx : Context) (ts : List Token) : ctx.Fitting →
    Yields (∀ field ∈ ·, field.2.Fitting) (blockFields? fuel ctx ts)
  blockValue (ctx : Context) (ts : List Token) : ctx.Fitting →
    Yields Node.Fitting (blockValue? fuel ctx ts)
  flowItems (first : Bool) (ctx : Context) (ts : List Token) : ctx.Fitting →
    Yields (∀ n ∈ ·, n.Fitting) (flowItems? first fuel ctx ts)
  flowPair (ctx : Context) (ts : List Token) : ctx.Fitting →
    Yields Node.Fitting (flowPair? fuel ctx ts)
  flowValue (inList : Bool) (ctx : Context) (ts : List Token) : ctx.Fitting →
    Yields Node.Fitting (flowValue? inList fuel ctx ts)
  flowFields (first : Bool) (ctx : Context) (ts : List Token) : ctx.Fitting →
    Yields (∀ field ∈ ·, field.2.Fitting) (flowFields? first fuel ctx ts)

variable {fuel : Nat} {ctx : Context}

namespace Reads

variable (reads : Reads fuel) (fitting : ctx.Fitting)

include reads fitting

theorem node_succ (block loose : Bool) (ts : List Token) :
    Yields Node.Fitting (node? block loose (fuel + 1) ctx ts) := by
  unfold node?
  split
  · exact yields_none
  · intro n _ _ found
    obtain ⟨n, value, same⟩ := Option.map_eq_some_iff.1 found
    cases same
    exact ⟨fitting_of_aliasNode? fitting value, fitting⟩
  · next same _ =>
    cases same
    refine yields_of_forall ?_
    rintro ⟨p, ts⟩
    have opened : (Context.bind _ p.anchor none).Fitting := fitting.bind nofun
    dsimp only
    split
    · exact yields_close (fitting_scalarNode _ _ _) fitting
    · exact (reads.flowItems _ _ _ opened).bind fun _ _ _ each inner =>
        yields_close (fitting_listNode each) inner
    · exact (reads.flowFields _ _ _ opened).bind fun _ _ _ each inner =>
        yields_close (fitting_tableNode each) inner
    · refine yields_ite yields_none ?_
      exact (reads.entries _ _ _ opened).bind fun _ _ _ each inner =>
        yields_close (fitting_listNode each) inner
    · refine yields_ite yields_none ?_
      exact (reads.blockFields _ _ opened).bind fun _ _ _ each inner =>
        yields_close (fitting_tableNode each) inner
    · refine yields_ite ?_ (yields_ite ?_ yields_none)
      · exact (reads.entries _ _ _ opened).bind fun _ _ _ each inner =>
          yields_close (fitting_listNode each) inner
      · exact yields_close (fitting_scalarNode _ _ _) fitting

theorem entries_succ (indented : Bool) (ts : List Token) :
    Yields (∀ n ∈ ·, n.Fitting) (entries? indented (fuel + 1) ctx ts) := by
  unfold entries?
  split
  · exact yields_none
  · next same =>
    cases same
    dsimp only
    refine Yields.bind_ite (yields_some fitting_emptyNode fitting)
      (reads.node _ _ _ _ fitting) fun item ctx ts value fitting => ?_
    refine (reads.entries _ _ _ fitting).bind fun items ctx ts each fitting => ?_
    exact yields_some (List.forall_mem_cons.2 ⟨value, each⟩) fitting
  · split
    · exact yields_some (List.forall_mem_nil _) fitting
    · exact yields_none
    · exact yields_some (List.forall_mem_nil _) fitting

theorem blockFields_succ (ts : List Token) :
    Yields (∀ field ∈ ·, field.2.Fitting) (blockFields? (fuel + 1) ctx ts) := by
  unfold blockFields?
  split
  · exact yields_none
  · exact yields_some (List.forall_mem_nil _) fitting
  · next same =>
    cases same
    dsimp only
    refine Yields.bind_ite (yields_some fitting_emptyNode fitting)
      (reads.node _ _ _ _ fitting) fun k ctx ts _ fitting => ?_
    refine (reads.blockValue _ _ fitting).bind fun v ctx ts value fitting => ?_
    refine (reads.blockFields _ _ fitting).bind fun fields ctx ts each fitting => ?_
    exact yields_some (List.forall_mem_cons.2 ⟨value, each⟩) fitting
  · exact yields_none

theorem blockValue_succ (ts : List Token) :
    Yields Node.Fitting (blockValue? (fuel + 1) ctx ts) := by
  unfold blockValue?
  split
  · exact yields_none
  · next same =>
    cases same
    exact yields_ite (yields_some fitting_emptyNode fitting) (reads.node _ _ _ _ fitting)
  · exact yields_some fitting_emptyNode fitting

theorem flowItems_succ (first : Bool) (ts : List Token) :
    Yields (∀ n ∈ ·, n.Fitting) (flowItems? first (fuel + 1) ctx ts) := by
  unfold flowItems?
  split
  · exact yields_none
  · exact yields_some (List.forall_mem_nil _) fitting
  · next same _ =>
    cases same
    dsimp only
    split
    -- What stands in front of an element, or does not, is no part of what is read.
    all_goals
      refine yields_of_forall fun ts => ?_
      split
      · exact yields_some (List.forall_mem_nil _) fitting
      · refine (reads.flowPair _ _ fitting).bind fun item ctx ts value fitting => ?_
        refine (reads.flowItems _ _ _ fitting).bind fun items ctx ts each fitting => ?_
        exact yields_some (List.forall_mem_cons.2 ⟨value, each⟩) fitting
      · refine (reads.node _ _ _ _ fitting).bind fun item ctx ts value fitting => ?_
        refine (reads.flowItems _ _ _ fitting).bind fun items ctx ts each fitting => ?_
        exact yields_some (List.forall_mem_cons.2 ⟨value, each⟩) fitting

theorem flowPair_succ (ts : List Token) : Yields Node.Fitting (flowPair? (fuel + 1) ctx ts) := by
  unfold flowPair?
  dsimp only
  split
  -- The key is left out before three tokens, and is read otherwise.
  case h_1 | h_2 | h_3 =>
    refine (yields_some fitting_emptyNode fitting).bind fun k ctx ts _ fitting => ?_
    refine (reads.flowValue _ _ _ fitting).bind fun v ctx ts value fitting => ?_
    exact yields_some (fitting_pairNode value) fitting
  case h_4 =>
    refine (reads.node _ _ _ _ fitting).bind fun k ctx ts _ fitting => ?_
    refine (reads.flowValue _ _ _ fitting).bind fun v ctx ts value fitting => ?_
    exact yields_some (fitting_pairNode value) fitting

theorem flowValue_succ (inList : Bool) (ts : List Token) :
    Yields Node.Fitting (flowValue? inList (fuel + 1) ctx ts) := by
  unfold flowValue?
  split
  · exact yields_none
  · next same =>
    cases same
    exact yields_ite (yields_some fitting_emptyNode fitting) (reads.node _ _ _ _ fitting)
  · exact yields_some fitting_emptyNode fitting

theorem flowFields_succ (first : Bool) (ts : List Token) :
    Yields (∀ field ∈ ·, field.2.Fitting) (flowFields? first (fuel + 1) ctx ts) := by
  unfold flowFields?
  split
  · exact yields_none
  · exact yields_some (List.forall_mem_nil _) fitting
  · next same _ =>
    cases same
    dsimp only
    split
    all_goals
      refine yields_of_forall fun ts => ?_
      split
      · exact yields_some (List.forall_mem_nil _) fitting
      · split
        case h_1 | h_2 | h_3 =>
          refine (yields_some fitting_emptyNode fitting).bind fun k ctx ts _ fitting => ?_
          refine (reads.flowValue _ _ _ fitting).bind fun v ctx ts value fitting => ?_
          refine (reads.flowFields _ _ _ fitting).bind fun fields ctx ts each fitting => ?_
          exact yields_some (List.forall_mem_cons.2 ⟨value, each⟩) fitting
        case h_4 =>
          refine (reads.node _ _ _ _ fitting).bind fun k ctx ts _ fitting => ?_
          refine (reads.flowValue _ _ _ fitting).bind fun v ctx ts value fitting => ?_
          refine (reads.flowFields _ _ _ fitting).bind fun fields ctx ts each fitting => ?_
          exact yields_some (List.forall_mem_cons.2 ⟨value, each⟩) fitting
      · refine (reads.node _ _ _ _ fitting).bind fun k ctx ts _ fitting => ?_
        refine (reads.flowFields _ _ _ fitting).bind fun fields ctx ts each fitting => ?_
        exact yields_some (List.forall_mem_cons.2 ⟨fitting_emptyNode, each⟩) fitting

end Reads

/-- Whatever the fuel, what is read is fitting. -/
theorem reads (fuel : Nat) : Reads fuel := by
  induction fuel with
  | zero =>
    constructor <;> intros <;> exact yields_none
  | succ fuel ih =>
    exact {
      node := fun block loose _ ts fitting => ih.node_succ fitting block loose ts
      entries := fun indented _ ts fitting => ih.entries_succ fitting indented ts
      blockFields := fun _ ts fitting => ih.blockFields_succ fitting ts
      blockValue := fun _ ts fitting => ih.blockValue_succ fitting ts
      flowItems := fun first _ ts fitting => ih.flowItems_succ fitting first ts
      flowPair := fun _ ts fitting => ih.flowPair_succ fitting ts
      flowValue := fun inList _ ts fitting => ih.flowValue_succ fitting inList ts
      flowFields := fun first _ ts fitting => ih.flowFields_succ fitting first ts }

/-! ## Documents -/

theorem fitting_of_document? {handles : List (String × String)} {ts rest : List Token} {n : Node}
    (read : document? handles ts = some (n, rest)) : n.Fitting := by
  unfold document? at read
  split at read
  · cases read
    exact fitting_emptyNode
  · obtain ⟨⟨node, ctx, left⟩, found, same⟩ := Option.map_eq_some_iff.1 read
    cases same
    have fresh : Context.Fitting ⟨handles ++ standardHandles, []⟩ := List.forall_mem_nil _
    exact ((reads _).node true false _ ts fresh _ _ _ found).1

theorem fitting_of_firstDocument? {ts rest : List Token} {n : Node}
    (read : firstDocument? ts = some (n, rest)) : n.Fitting := by
  unfold firstDocument? at read
  split at read
  case h_1 | h_2 =>
    obtain ⟨⟨h, left⟩, _, body⟩ := Option.bind_eq_some_iff.1 read
    dsimp only at body
    split at body
    · exact fitting_of_document? body
    · cases body
  case h_3 => cases read
  case h_4 => exact fitting_of_document? read

/-- A setting that is read is fitting. -/
theorem fitting_of_read? {text : String} {v : Setting} (read : read? text = some v) :
    v.Fitting := by
  obtain ⟨chars, _, scanned⟩ := Option.bind_eq_some_iff.1 read
  obtain ⟨ts, _, whole⟩ := Option.bind_eq_some_iff.1 scanned
  split at whole
  · cases whole
    exact .plain ""
  · obtain ⟨⟨node, rest⟩, found, kept⟩ := Option.bind_eq_some_iff.1 whole
    dsimp only at kept
    split at kept <;> cases kept
    exact fitting_of_firstDocument? found

end SchemaBinder.Yaml
