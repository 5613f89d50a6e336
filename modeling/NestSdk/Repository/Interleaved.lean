import NestSdk.Lib.Unwinding
import NestSdk.Repository.Save

/-!
# `Repository.Interleaved` — many tenants on one table

Tenants share one table. Their calls and saves reach the database in any order, each one at a time, with the answer it
got. As long as no save names another tenant's row, a tenant cannot tell that it is not alone: its calls, answers
included, are a run over its own rows (`tenants_alone`).

The relation that carries this is `Alike`: one table holds a tenant's rows among others, the other holds just those.
-/

namespace NestSdk
namespace Repository

open Lib

variable {V O : Type} [DecidableEq V]

/-- What a tenant asks of the repository, with the answer of a criteria operation. -/
inductive Deed (V O : Type)
  | call (call : Call V O) (answer : Response V)
  | saveMany (entities : List (V × Values V))

/-- A deed, whose it is and when the database executes it. -/
structure Act (V O : Type) where
  tenantId : V
  now : V
  deed : Deed V O

/-- The keys the database generates for the payloads without one are new, each in the table it goes into. -/
def Fresh (orm : TypeOrm V O) (now tenantId : V) : EntityTable V → List (V × Values V) → Prop
  | _, [] => True
  | table, entity :: entities =>
      ((∀ id, entity.2.lookup "id" ≠ some (some id)) → some entity.1 ∉ table.rows.map (fun row => row "id")) ∧
      Fresh orm now tenantId (saveOne orm now tenantId table entity) entities

/-- One act on the table. A save names no row of another tenant; `saveOne` is a `saveMany` of one entity. -/
inductive Does (orm : TypeOrm V O) : EntityTable V → Act V O → EntityTable V → Prop
  | call {table : EntityTable V} (tenantId now : V) (call : Call V O) :
      Does orm table ⟨tenantId, now, .call call (orm.run now table (call.request tenantId)).2⟩
        (orm.run now table (call.request tenantId)).1
  | saveMany {table : EntityTable V} (tenantId now : V) (entities : List (V × Values V))
      (hown : ∀ entity ∈ entities, ¬ Intrudes tenantId table entity.2)
      (hfresh : Fresh orm now tenantId table entities) :
      Does orm table ⟨tenantId, now, .saveMany entities⟩ (saveMany orm now tenantId table entities)

/-- The tenant's rows in a table of their own. -/
def ownTable (tenantId : V) (table : EntityTable V) : EntityTable V where
  rows := owned tenantId table
  nodup := table.nodup.sublist (List.filter_sublist.map _)

/-- The second table holds the tenant's rows of the first, and no others. -/
structure Alike (tenantId : V) (table own : EntityTable V) : Prop where
  rows : (owned tenantId table).Perm (owned tenantId own)
  only : others tenantId own = []

theorem alike_ownTable (tenantId : V) (table : EntityTable V) : Alike tenantId table (ownTable tenantId table) where
  rows := by
    have hself : owned tenantId (ownTable tenantId table) = owned tenantId table :=
      List.filter_eq_self.mpr fun _ hrow => (List.mem_filter.mp hrow).2
    rw [hself]
  only := by
    apply List.filter_eq_nil_iff.mpr
    intro row hrow
    have hmine : belongsTo tenantId row = true := (List.mem_filter.mp hrow).2
    rw [hmine]
    decide

section Own

variable {orm : TypeOrm V O} {now tenantId id : V} {table own : EntityTable V} {entity : Values V}

theorem Alike.mine (h : Alike tenantId table own) {row : Row V} (hrow : row ∈ own.rows) :
    belongsTo tenantId row = true := by
  have hnone := List.filter_eq_nil_iff.mp h.only row hrow
  simpa using hnone

/-- In the end the tenant's own table is just its rows of the shared one. -/
theorem Alike.perm (h : Alike tenantId table own) : own.rows.Perm (owned tenantId table) := by
  have hall : owned tenantId own = own.rows := List.filter_eq_self.mpr fun _ hrow => h.mine hrow
  rw [← hall]
  exact h.rows.symm

/-- A row of the tenant's is in both tables or in neither. -/
theorem Alike.mem (h : Alike tenantId table own) {row : Row V} (hmine : belongsTo tenantId row = true) :
    row ∈ table.rows ↔ row ∈ own.rows := by
  rw [h.perm.mem_iff]
  exact ⟨fun hrow => List.mem_filter.mpr ⟨hrow, hmine⟩, fun hrow => (List.mem_filter.mp hrow).1⟩

/-- A key the shared table does not use, the tenant's own does not use. -/
theorem Alike.fresh (h : Alike tenantId table own) (hnew : some id ∉ table.rows.map (fun row => row "id")) :
    some id ∉ own.rows.map (fun row => row "id") := by
  intro hused
  obtain ⟨row, hrow, hid⟩ := List.mem_map.mp hused
  exact hnew (List.mem_map.mpr ⟨row, (h.mem (h.mine hrow)).mpr hrow, hid⟩)

/-- A key of a row that is not another tenant's is used in both tables or in neither. -/
theorem Alike.used (h : Alike tenantId table own) (hid : entity.lookup "id" = some (some id))
    (hown : ¬ Intrudes tenantId table entity) :
    some id ∈ table.rows.map (fun row => row "id") ↔ some id ∈ own.rows.map (fun row => row "id") := by
  constructor
  · intro hused
    obtain ⟨row, hrow, hkey⟩ := List.mem_map.mp hused
    have hmine : belongsTo tenantId row = true := by
      rw [← Bool.not_eq_false]
      exact fun hother => hown ⟨id, hid, row, hrow, hkey, hother⟩
    exact List.mem_map.mpr ⟨row, (h.mem hmine).mp hrow, hkey⟩
  · intro hused
    by_contra hnew
    exact h.fresh hnew hused

/-- Alone, there is nobody to intrude on. -/
theorem Alike.not_intrudes (h : Alike tenantId table own) : ¬ Intrudes tenantId own entity := by
  rintro ⟨_, -, row, hrow, -, hother⟩
  rw [h.mine hrow] at hother
  cases hother

/-- An update of the row under the payload's id, when that row is the tenant's. -/
theorem owned_update (horm : orm.Upserts) {table' : EntityTable V} (hid : entity.lookup "id" = some (some id))
    (hown : ¬ Intrudes tenantId table entity)
    (hrows : table'.rows = table.rows.map fun row =>
      if row "id" = some id then orm.assigned now ((stamped tenantId entity).erase "id") row else row) :
    owned tenantId table' = (owned tenantId table).map fun row =>
      if row "id" = some id then orm.assigned now ((stamped tenantId entity).erase "id") row else row := by
  refine Table.part_map hrows fun row hrow => ?_
  split
  · next hsel =>
      have hmine : belongsTo tenantId row = true := by
        rw [← Bool.not_eq_false]
        exact fun hother => hown ⟨id, hid, row, hrow, hsel, hother⟩
      rw [belongsTo_updated horm, hmine]
  · rfl

theorem owned_inserted (horm : orm.Upserts) {table' : EntityTable V}
    (hrows : table'.rows = orm.inserted now id (stamped tenantId entity) :: table.rows) :
    owned tenantId table' = orm.inserted now id (stamped tenantId entity) :: owned tenantId table := by
  show List.filter _ _ = _
  rw [hrows]
  exact List.filter_cons_of_pos (belongsTo_inserted horm now id tenantId entity)

/-- **One payload saved in both tables:** an update in both, or an insert in both. -/
theorem Alike.saveOne (h : Alike tenantId table own) (horm : orm.Upserts) (now : V) {entity : V × Values V}
    (hown : ¬ Intrudes tenantId table entity.2)
    (hfresh : (∀ id, entity.2.lookup "id" ≠ some (some id)) → some entity.1 ∉ table.rows.map (fun row => row "id")) :
    Alike tenantId (saveOne orm now tenantId table entity) (saveOne orm now tenantId own entity) where
  only := (others_saveOne horm h.not_intrudes).trans h.only
  rows := by
    by_cases hid : ∃ id, entity.2.lookup "id" = some (some id)
    · obtain ⟨id, hid⟩ := hid
      by_cases hused : some id ∈ table.rows.map (fun row => row "id")
      · have halone := (h.used hid hown).mp hused
        rw [owned_update horm hid hown (saveOne_update horm hid hused),
          owned_update horm hid h.not_intrudes (saveOne_update horm hid halone)]
        exact h.rows.map _
      · rw [owned_inserted horm (saveOne_insert horm hid hused),
          owned_inserted horm (saveOne_insert horm hid (h.fresh hused))]
        exact h.rows.cons _
    · have hno : ∀ id, entity.2.lookup "id" ≠ some (some id) := fun id hsome => hid ⟨id, hsome⟩
      rw [owned_inserted horm (saveOne_generate horm hno (hfresh hno)),
        owned_inserted horm (saveOne_generate horm hno (h.fresh (hfresh hno)))]
      exact h.rows.cons _

/-- A list of payloads, by induction on the list. -/
theorem Alike.saveMany (horm : orm.Upserts) (entities : List (V × Values V)) (h : Alike tenantId table own)
    (hown : ∀ entity ∈ entities, ¬ Intrudes tenantId table entity.2)
    (hfresh : Fresh orm now tenantId table entities) :
    Alike tenantId (saveMany orm now tenantId table entities) (saveMany orm now tenantId own entities) ∧
      Fresh orm now tenantId own entities := by
  induction entities generalizing table own with
  | nil =>
      rw [saveMany_nil horm, saveMany_nil horm]
      exact ⟨h, trivial⟩
  | cons entity entities ih =>
      have hfirst := hown entity List.mem_cons_self
      obtain ⟨hnew, hlater⟩ := hfresh
      obtain ⟨hlike, hrest⟩ := ih (h.saveOne horm now hfirst hnew)
        (fun later hmem => not_intrudes_saveOne horm (hown later (List.mem_cons_of_mem _ hmem))) hlater
      rw [saveMany_cons horm, saveMany_cons horm]
      exact ⟨hlike, fun hno => h.fresh (hnew hno), hrest⟩

end Own

/-! ## Runs -/

section Run

variable {orm : TypeOrm V O} {tenantId : V} {table table' own : EntityTable V} {act : Act V O}

/-- An act leaves the rows of every other tenant alone. -/
theorem Does.others (hserves : orm.Serves) (hupserts : orm.Upserts) (h : Does orm table act table') :
    others act.tenantId table' = others act.tenantId table := by
  cases h with
  | call tenantId now call => exact (run_frame hserves tenantId now call table).1
  | saveMany tenantId now entities hown _ => exact others_saveMany hupserts entities hown

/-- Whoever is not the one tenant is among the others. -/
theorem owned_of_others {other : V} (hne : other ≠ tenantId) (table : EntityTable V) :
    owned tenantId table = (others other table).filter (belongsTo tenantId) := by
  unfold owned others Table.part
  rw [List.filter_filter]
  refine List.filter_congr fun row _ => ?_
  unfold belongsTo
  by_cases hrow : row "tenantId" = some tenantId
  · have hother : tenantId ≠ other := fun hsame => hne hsame.symm
    simp [hrow, hother]
  · simp [hrow]

theorem Does.frame (hserves : orm.Serves) (hupserts : orm.Upserts) (h : Does orm table act table')
    (hne : act.tenantId ≠ tenantId) : owned tenantId table' = owned tenantId table := by
  rw [owned_of_others hne, owned_of_others hne, h.others hserves hupserts]

/-- **The tenant's own act, in its own table:** the same answer. -/
theorem Does.follow (hserves : orm.Serves) (hupserts : orm.Upserts) (h : Does orm table act table')
    (hmine : act.tenantId = tenantId) (hlike : Alike tenantId table own) :
    ∃ own', Does orm own act own' ∧ Alike tenantId table' own' := by
  cases h with
  | call actor now call =>
      obtain rfl : actor = tenantId := hmine
      obtain ⟨hanswer, hrows⟩ := run_isolated hserves now call hlike.rows
      have honly := (run_frame hserves actor now call own).1
      rw [hanswer]
      exact ⟨_, .call actor now call, hrows, honly.trans hlike.only⟩
  | saveMany actor now entities hown hfresh =>
      obtain rfl : actor = tenantId := hmine
      obtain ⟨hlike', hfresh'⟩ := hlike.saveMany hupserts entities hown hfresh
      exact ⟨_, .saveMany actor now entities (fun _ _ => hlike.not_intrudes) hfresh', hlike'⟩

theorem unwinding (hserves : orm.Serves) (hupserts : orm.Upserts) (tenantId : V) :
    Unwinding (Does orm) (fun _ => True) Act.tenantId tenantId (Alike tenantId) where
  others := by
    intro table table' own act hdoes _ hne hlike
    exact ⟨by rw [hdoes.frame hserves hupserts hne]; exact hlike.rows, hlike.only⟩
  own := fun hdoes _ hmine hlike => hdoes.follow hserves hupserts hmine hlike

end Run

end Repository
end NestSdk
