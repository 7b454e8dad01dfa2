import RecordMapper.Proofs.Schema.Definitions
import RecordMapper.Proofs.Session.Exchange
import RecordMapper.Proofs.Sql.Joins
import RecordMapper.Session.Traversal

/-!
# The two ends of an association

One model belongs to another one, which has many of it. The foreign key is named after the target on
one side and after the owner on the other, so the two ends have to read one name alike. For models in
ASCII they do (`Registry.ofText_eq_of_get`): both ends then pair the same two attributes, whether
they are joined or followed from a record.
-/

namespace RecordMapper

/-- Following `up` from `child` and `down` from `parent` leads back and forth, and no foreign key is
given on either side or the same one on both. -/
structure Registry.TwoEnds (r : Registry) (child parent : Model) (up down : String)
    (toParent toChildren : ResolvedAssociation) : Prop where
  child_mem : child ∈ r.models
  parent_mem : parent ∈ r.models
  ne : child ≠ parent
  resolve_up : r.resolve child up = .ok toParent
  kind_up : toParent.kind = .belongsTo
  target_up : toParent.target = parent
  resolve_down : r.resolve parent down = .ok toChildren
  kind_down : toChildren.kind = .hasMany
  target_down : toChildren.target = child
  foreignKey? : (child.association? up).map Association.foreignKey? =
    (parent.association? down).map Association.foreignKey?

/-! ## Following an association from a record -/

/-- The first record of a relation is read from the rows of the query for one row. -/
theorem Relation.first_eq (s : Session) (cx : Context) (rel : Relation) : rel.first s cx = do
    let reply ← s.query cx (.query (rel.query.refine (.limit 1)))
    return (reply.bind fun rows => rows.mapM (Record.ofRow rel.model)).map List.head? := by
  unfold Relation.first Relation.toList
  rw [bind_assoc]
  rfl

namespace Record

variable {s : Session} {r : Record} {name : String} {resolved : ResolvedAssociation} {v : Value}

theorem present?_eq_some :
    r.present? name = some v ↔ r.values.get? name = some v ∧ v.isNull = false := by
  unfold present?
  cases r.values.get? name with
  | none => simp
  | some w =>
    cases hw : w.isNull with
    | true =>
      simp only [hw, if_true, reduceCtorEq, Option.some.injEq, false_iff, not_and]
      rintro rfl hv
      rw [hw] at hv
      cases hv
    | false =>
      simp only [hw, Bool.false_eq_true, if_false, Option.some.injEq]
      exact ⟨fun h => ⟨h, h ▸ hw⟩, And.left⟩

/-- The record that another one belongs to is the first one with the key. -/
theorem association_eq (cx : Context) (hresolve : s.registry.resolve r.model name = .ok resolved)
    (hkind : resolved.kind = .belongsTo) (hkey : r.present? resolved.ownerKey = some v) :
    r.association s cx name =
      (Relation.whereEquals resolved.target resolved.targetKey v).first s cx := by
  unfold association
  simp only [hresolve, hkind, hkey]
  rfl

/-- The records that belong to another one are those with its key. -/
theorem collection_eq_ok {rel : Relation} : r.collection s name = .ok rel ↔
    ∃ resolved key, s.registry.resolve r.model name = .ok resolved ∧ resolved.kind = .hasMany ∧
      r.present? resolved.ownerKey = some key ∧
      Relation.whereEquals resolved.target resolved.targetKey key = rel := by
  unfold collection
  simp only [bind_eq_ok, ite_throw_bind_eq_ok, exists_and_left]
  refine exists_congr fun resolved => and_congr_right fun _ => and_congr ?_ ?_
  · cases resolved.kind <;> simp
  · cases r.present? resolved.ownerKey with
    | none => simp [throw_ne_ok]
    | some key => simp [pure_eq_ok]

end Record

/-! ## Both ends -/

/-- A join is all that is refined in a query for all records. -/
theorem Sql.lower_join_all {r : Registry} {m : Model} {name : String} {j : Sql.Join}
    (hm : r.get m.name = .ok m) (hj : Sql.lowerJoin r m name = .ok j) :
    ∃ select, Sql.lower r (.query ((Query.all m.name).refine (.join name))) = .ok (.select select) ∧
      select.joins = [j] := by
  have hjoins : [name].mapM (Sql.lowerJoin r m) = .ok [j] := mapM_eq_ok.mpr (.cons hj .nil)
  exact ⟨_, Sql.lower_query_eq_ok.mpr ⟨m, hm, Sql.lowerQuery_eq_ok.mpr
    ⟨[j], _, [], [], [], hjoins, rfl, rfl, rfl, rfl, rfl, rfl⟩⟩, rfl⟩

namespace Registry.TwoEnds

variable {r : Registry} {child parent : Model} {up down : String}
  {toParent toChildren : ResolvedAssociation}

theorem owner_down (h : r.TwoEnds child parent up down toParent toChildren) :
    toChildren.owner = parent := ResolvedAssociation.owner_eq h.resolve_down

/-- Both ends store the key in the same attribute. -/
theorem foreignKey_eq (h : r.TwoEnds child parent up down toParent toChildren)
    (hparent : parent.DeclaredInAscii) : toParent.foreignKey = toChildren.foreignKey := by
  obtain ⟨declaredUp, target, hup, htarget, heqUp, -⟩ := resolve_eq_ok.mp h.resolve_up
  obtain ⟨declaredDown, _, hdown, -, heqDown, -⟩ := resolve_eq_ok.mp h.resolve_down
  have hkindUp : declaredUp.kind = .belongsTo := by rw [← h.kind_up, heqUp]
  have hkindDown : declaredDown.kind = .hasMany := by rw [← h.kind_down, heqDown]
  have htargetParent : target = parent := by rw [← h.target_up, heqUp]
  rw [htargetParent] at htarget
  have hgiven : declaredUp.foreignKey? = declaredDown.foreignKey? := by
    have hsame := h.foreignKey?
    rw [hup, hdown] at hsame
    exact Option.some.inj hsame
  rw [heqUp, heqDown]
  show declaredUp.foreignKeyFor child.name = declaredDown.foreignKeyFor parent.name
  unfold Association.foreignKeyFor
  rw [hgiven, hkindUp, hkindDown]
  cases declaredDown.foreignKey? with
  | some foreignKey => rfl
  | none =>
    show (Name.ofText declaredUp.target).foreignKey = (Name.ofText parent.name).foreignKey
    rw [ofText_eq_of_get hparent htarget]

theorem keys_eq (h : r.TwoEnds child parent up down toParent toChildren)
    (hparent : parent.DeclaredInAscii) :
    toParent.ownerKey = toChildren.targetKey ∧ toParent.targetKey = toChildren.ownerKey := by
  constructor
  · simp only [ResolvedAssociation.ownerKey, ResolvedAssociation.targetKey, h.kind_up, h.kind_down,
      h.foreignKey_eq hparent]
  · simp only [ResolvedAssociation.ownerKey, ResolvedAssociation.targetKey, h.kind_up, h.kind_down,
      h.target_up, h.owner_down]

/-- Both ends are joined on the same two columns, the primary key of the parent and the foreign key of
the child. -/
theorem joins_eq (h : r.TwoEnds child parent up down toParent toChildren)
    (hparent : parent.DeclaredInAscii) (hname : child.name ≠ parent.name) :
    ∃ joinUp joinDown, Sql.lowerJoin r child up = .ok joinUp ∧
      Sql.lowerJoin r parent down = .ok joinDown ∧
      joinUp.left = joinDown.right ∧ joinUp.right = joinDown.left ∧
      joinUp.left = .qualified parent.tableName parent.primaryKey ∧
      joinUp.right = .qualified child.tableName toParent.foreignKey := by
  obtain ⟨howner, htarget⟩ := h.keys_eq hparent
  have hup : toParent.target.name ≠ child.name := by
    rw [h.target_up]
    exact hname.symm
  have hdown : toChildren.target.name ≠ parent.name := by rwa [h.target_down]
  refine ⟨_, _, Sql.lowerJoin_eq_ok.mpr ⟨toParent, h.resolve_up, hup, rfl⟩,
    Sql.lowerJoin_eq_ok.mpr ⟨toChildren, h.resolve_down, hdown, rfl⟩, ?_, ?_, ?_, ?_⟩
  · simp only [Sql.ResolvedAssociation.join, h.target_up, htarget]
  · simp only [Sql.ResolvedAssociation.join, h.target_down, howner]
  · simp only [Sql.ResolvedAssociation.join, ResolvedAssociation.targetKey, h.kind_up, h.target_up]
  · simp only [Sql.ResolvedAssociation.join, ResolvedAssociation.ownerKey, h.kind_up]

end Registry.TwoEnds

/-- The two ends of an association agree: on the foreign key and the attributes that take part, on
the columns that are joined, the primary key of the parent and the foreign key of the child, and on what
is asked when they are followed from a record. -/
theorem two_ends_agree {s : Session} {child parent : Model} {up down : String}
    {toParent toChildren : ResolvedAssociation} (hr : s.registry.Consistent)
    (hascii : ∀ m ∈ s.registry.models, m.DeclaredInAscii)
    (h : s.registry.TwoEnds child parent up down toParent toChildren) :
    toParent.foreignKey = toChildren.foreignKey ∧
      toParent.ownerKey = toChildren.targetKey ∧ toParent.targetKey = toChildren.ownerKey ∧
      (∃ joinUp joinDown, Sql.lowerJoin s.registry child up = .ok joinUp ∧
        Sql.lowerJoin s.registry parent down = .ok joinDown ∧
        joinUp.left = joinDown.right ∧ joinUp.right = joinDown.left ∧
        joinUp.left = .qualified parent.tableName parent.primaryKey ∧
        joinUp.right = .qualified child.tableName toParent.foreignKey ∧
        (∃ select, Sql.lower s.registry (.query ((Query.all child.name).refine (.join up))) =
          .ok (.select select) ∧ select.joins = [joinUp]) ∧
        ∃ select, Sql.lower s.registry (.query ((Query.all parent.name).refine (.join down))) =
          .ok (.select select) ∧ select.joins = [joinDown]) ∧
      (∀ (cx : Context) (r : Record) (v : Value), r.model = child →
        r.values.get? toParent.foreignKey = some v → v.isNull = false →
        r.association s cx up = do
          let reply ← s.query cx (.query ((Query.all parent.name).refineAll
            [.filter (.equals toParent.targetKey v), .limit 1]))
          return (reply.bind fun rows => rows.mapM (Record.ofRow parent)).map List.head?) ∧
      ∀ (r : Record) (k : Value), r.model = parent → r.key? = some k →
        r.collection s down =
          .ok ⟨child, (Query.all child.name).refine (.filter (.equals toParent.foreignKey k))⟩ := by
  have hparent : parent.DeclaredInAscii := hascii parent h.parent_mem
  have hname : child.name ≠ parent.name := fun heq =>
    h.ne (hr.eq_of_name h.child_mem h.parent_mem heq)
  obtain ⟨howner, htarget⟩ := h.keys_eq hparent
  refine ⟨h.foreignKey_eq hparent, howner, htarget, ?_, ?_, ?_⟩
  · obtain ⟨joinUp, joinDown, hup, hdown, hleft, hright, hkey, hforeign⟩ := h.joins_eq hparent hname
    exact ⟨joinUp, joinDown, hup, hdown, hleft, hright, hkey, hforeign,
      Sql.lower_join_all (Registry.get_name hr.nodup h.child_mem) hup,
      Sql.lower_join_all (Registry.get_name hr.nodup h.parent_mem) hdown⟩
  · rintro cx r v rfl hv hnull
    have hkey : r.present? toParent.ownerKey = some v := by
      rw [Record.present?_eq_some, ResolvedAssociation.ownerKey, h.kind_up]
      exact ⟨hv, hnull⟩
    rw [Record.association_eq cx h.resolve_up h.kind_up hkey, h.target_up]
    exact Relation.first_eq s cx _
  · rintro r k rfl hk
    have hkey : r.present? toChildren.ownerKey = some k := by
      rw [ResolvedAssociation.ownerKey, h.kind_down, h.owner_down]
      exact hk
    refine Record.collection_eq_ok.mpr ⟨toChildren, k, h.resolve_down, h.kind_down, hkey, ?_⟩
    rw [h.target_down, ResolvedAssociation.targetKey, h.kind_down, h.foreignKey_eq hparent]
    rfl

/-! ## Books and authors without a foreign key given -/

namespace Bookshop

/-- Authors, whose books are found by the name of the model. -/
def namedAuthor : Model := { author with associations := [⟨.hasMany, "books", "book", none⟩] }

/-- Books, whose author is found by the name of the association. -/
def namedBook : Model := { book with associations := [⟨.belongsTo, "author", "author", none⟩] }

/-- A session with books and authors. -/
def namedSession : Session := { Session.withDrivers [] with registry := ⟨[namedBook, namedAuthor]⟩ }

/-- The author of a book. -/
def toAuthor : ResolvedAssociation := ⟨.belongsTo, "author", namedBook, namedAuthor, "author_id"⟩

/-- The books of an author. -/
def toBooks : ResolvedAssociation := ⟨.hasMany, "books", namedAuthor, namedBook, "author_id"⟩

theorem named_declaredInAscii : ∀ m ∈ namedSession.registry.models, m.DeclaredInAscii := by
  refine List.forall_mem_cons.mpr ⟨⟨"Book", bookClauses.dropLast ++
      [.association ⟨.belongsTo, "author", "author", none⟩], by decide +kernel, ?_⟩,
    List.forall_mem_singleton.mpr ⟨"Author", authorClauses.dropLast ++
      [.association ⟨.hasMany, "books", "book", none⟩], by decide +kernel, ?_⟩⟩
  · exact Declaration.build_eq_ok.mpr (by decide +kernel)
  · exact Declaration.build_eq_ok.mpr (by decide +kernel)

theorem named_consistent : namedSession.registry.Consistent :=
  ⟨fun m hm => (named_declaredInAscii m hm).declared, by decide⟩

theorem named_twoEnds :
    namedSession.registry.TwoEnds namedBook namedAuthor "author" "books" toAuthor toBooks where
  child_mem := List.mem_cons_self
  parent_mem := List.mem_cons_of_mem _ List.mem_cons_self
  ne := by decide
  resolve_up := by decide +kernel
  kind_up := rfl
  target_up := rfl
  resolve_down := by decide +kernel
  kind_down := rfl
  target_down := rfl
  foreignKey? := by decide +kernel

/-- A book and its author are joined on the same columns from both sides. -/
theorem named_ends_agree : namedSession.registry.Consistent ∧
    (∀ m ∈ namedSession.registry.models, m.DeclaredInAscii) ∧
    namedSession.registry.TwoEnds namedBook namedAuthor "author" "books" toAuthor toBooks ∧
    ∃ joinUp joinDown, Sql.lowerJoin namedSession.registry namedBook "author" = .ok joinUp ∧
      Sql.lowerJoin namedSession.registry namedAuthor "books" = .ok joinDown ∧
      joinUp.left = joinDown.right ∧ joinUp.right = joinDown.left ∧
      joinUp.left = .qualified "authors" "id" ∧ joinUp.right = .qualified "books" "author_id" := by
  obtain ⟨-, -, -, ⟨joinUp, joinDown, hup, hdown, hleft, hright, hkey, hforeign, -⟩, -⟩ :=
    two_ends_agree named_consistent named_declaredInAscii named_twoEnds
  have hparent : namedAuthor.tableName = "authors" := by decide +kernel
  have hchild : namedBook.tableName = "books" := by decide +kernel
  rw [hparent] at hkey
  rw [hchild] at hforeign
  exact ⟨named_consistent, named_declaredInAscii, named_twoEnds, joinUp, joinDown, hup, hdown, hleft, hright,
    hkey, hforeign⟩

end Bookshop

end RecordMapper
