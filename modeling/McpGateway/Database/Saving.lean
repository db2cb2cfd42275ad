import Mathlib.Data.List.Infix
import McpGateway.Database.Messages

/-!
# Paging while messages are saved

`pageWhileSaving` runs a reader paging through a session and a writer's `SaveMessage`s,
interleaved in any order. When each message saved for the session is stored later than every
one stored before (`Appending`), a save only extends `GetMessages` at its end, so no message is
read twice or out of order (`paging_while_saving_reads_once`).
-/

namespace McpGateway.Database

namespace MySQL

/-- `SaveMessage`: GORM's `Create` inserts the row, and the database refuses a row whose
primary key is taken. The declaration of `Message` is not among the sources: its `id` is
taken to be the primary key. -/
def saveMessage (db : MySQL) (m : Message) : Option MySQL :=
  if db.messages.any (·.id == m.id) then none else some ⟨db.messages ++ [m]⟩

inductive Access
  | save (m : Message)
  | readPage
  deriving DecidableEq

/-- The reader pages through `sessionID` from page `page` on, one page per `readPage`, while
the writer's saves go in; each query is arranged as `orders` says for its page. The slices
read (empty when the query fails, as GORM leaves them), and the table after. A refused save
leaves the table as it was. -/
def pageWhileSaving (orders : Nat → Arrangement) (sessionID : String) (pageSize : Int) :
    Nat → List Access → MySQL → List (List Message) × MySQL
  | _, [], db => ([], db)
  | page, .save m :: rest, db => pageWhileSaving orders sessionID pageSize page rest ((db.saveMessage m).getD db)
  | page, .readPage :: rest, db =>
    ((db.getMessagesWithPagination (orders page) sessionID page pageSize).getD [] ::
        (pageWhileSaving orders sessionID pageSize (page + 1) rest db).1,
      (pageWhileSaving orders sessionID pageSize (page + 1) rest db).2)

def Access.savedFor (sessionID : String) : Access → Option Message
  | .save m => if m.sessionID = sessionID then some m else none
  | .readPage => none

/-- The saves to come append to `sessionID` in time order: its stored messages have
distinct timestamps, and each message saved for it is later than every one stored or
saved before it. -/
structure Appending (db : MySQL) (sessionID : String) (saved : List Message) : Prop where
  nodup : ((db.rowsOf sessionID).map (·.timestamp)).Nodup
  later : ∀ x ∈ db.rowsOf sessionID, ∀ m ∈ saved, x.timestamp < m.timestamp
  increasing : saved.Pairwise fun a b => a.timestamp < b.timestamp

-- ---------------------------------------------------------------------------
-- One save
-- ---------------------------------------------------------------------------

theorem rowsOf_saveMessage {db db' : MySQL} {m : Message} (h : db.saveMessage m = some db')
    (sessionID : String) :
    db'.rowsOf sessionID = db.rowsOf sessionID ++ if m.sessionID = sessionID then [m] else [] := by
  unfold saveMessage at h
  split at h
  · cases h
  · cases h
    by_cases hm : m.sessionID = sessionID <;> simp [rowsOf, List.filter_append, hm]

theorem sorted_lt_of_nodup (o : Arrangement) {rows : List Message} (h : (rows.map (·.timestamp)).Nodup) :
    (o.arrange rows).Sorted fun a b => a.timestamp < b.timestamp := by
  have hne := List.pairwise_map.mp (((o.perm rows).map (·.timestamp)).nodup_iff.mpr h)
  exact ((o.sorted rows).and hne).imp fun ⟨hle, hne⟩ => Int.lt_iff_le_and_ne.mpr ⟨hle, hne⟩

theorem nodup_append_later {rows : List Message} {m : Message} (h : (rows.map (·.timestamp)).Nodup)
    (hm : ∀ x ∈ rows, x.timestamp < m.timestamp) : ((rows ++ [m]).map (·.timestamp)).Nodup := by
  rw [List.map_append, List.nodup_append]
  refine ⟨h, List.nodup_singleton _, fun a ha hb => ?_⟩
  obtain ⟨x, hx, rfl⟩ := List.mem_map.mp ha
  simp only [List.map_cons, List.map_nil, List.mem_singleton] at hb
  exact Int.ne_of_lt (hm x hx) hb

theorem arrange_append_later (o o' : Arrangement) {rows : List Message} {m : Message}
    (h : (rows.map (·.timestamp)).Nodup) (hm : ∀ x ∈ rows, x.timestamp < m.timestamp) :
    o.arrange (rows ++ [m]) = o'.arrange rows ++ [m] := by
  haveI : IsAntisymm Message fun a b => a.timestamp < b.timestamp :=
    ⟨fun _ _ h₁ h₂ => absurd (Int.lt_trans h₁ h₂) (Int.lt_irrefl _)⟩
  have hn := nodup_append_later h hm
  refine List.eq_of_perm_of_sorted ((o.perm _).trans ((o'.perm rows).symm.append_right [m]))
    (sorted_lt_of_nodup o hn) ?_
  rw [List.Sorted, List.pairwise_append]
  exact ⟨sorted_lt_of_nodup o' h, List.pairwise_singleton _ _,
    fun x hx y hy => (List.mem_singleton.mp hy) ▸ hm x ((o'.perm rows).mem_iff.mp hx)⟩

theorem getMessages_saveMessage {db : MySQL} {sessionID : String} {m : Message} {rest : List Message}
    (h : Appending db sessionID (((Access.save m).savedFor sessionID).toList ++ rest)) (o : Arrangement) :
    Appending ((db.saveMessage m).getD db) sessionID rest ∧
      (db.getMessages o sessionID).IsPrefix (((db.saveMessage m).getD db).getMessages o sessionID) := by
  have hrest : Appending db sessionID rest :=
    ⟨h.nodup, fun x hx m' hm' => h.later x hx m' (List.mem_append_right _ hm'),
      (List.pairwise_append.mp h.increasing).2.1⟩
  cases hs : db.saveMessage m with
  | none => exact ⟨hrest, List.prefix_refl _⟩
  | some db' =>
    simp only [Option.getD_some]
    have hrows := rowsOf_saveMessage hs sessionID
    by_cases hm : m.sessionID = sessionID
    · simp only [Access.savedFor, hm, if_true, Option.toList_some, List.singleton_append] at h
      have hlater : ∀ x ∈ db.rowsOf sessionID, x.timestamp < m.timestamp :=
        fun x hx => h.later x hx m (List.mem_cons_self _ _)
      rw [if_pos hm] at hrows
      refine ⟨⟨?_, ?_, (List.pairwise_cons.mp h.increasing).2⟩, ?_⟩
      · rw [hrows]; exact nodup_append_later h.nodup hlater
      · intro x hx m' hm'
        rw [hrows, List.mem_append, List.mem_singleton] at hx
        rcases hx with hx | rfl
        · exact h.later x hx m' (List.mem_cons_of_mem _ hm')
        · exact (List.pairwise_cons.mp h.increasing).1 m' hm'
      · rw [getMessages, getMessages, hrows, arrange_append_later o o h.nodup hlater]
        exact List.prefix_append _ _
    · rw [if_neg hm, List.append_nil] at hrows
      exact ⟨⟨hrows ▸ hrest.nodup, hrows ▸ hrest.later, hrest.increasing⟩,
        by rw [getMessages, getMessages, hrows]⟩

-- ---------------------------------------------------------------------------
-- Whole runs
-- ---------------------------------------------------------------------------

theorem pageWhileSaving_final (orders : Nat → Arrangement) (o : Arrangement) (sessionID : String)
    (pageSize : Int) (accs : List Access) :
    ∀ (page : Nat) (db : MySQL), Appending db sessionID (accs.filterMap (Access.savedFor sessionID)) →
      Appending (pageWhileSaving orders sessionID pageSize page accs db).2 sessionID [] ∧
        (db.getMessages o sessionID).IsPrefix
          ((pageWhileSaving orders sessionID pageSize page accs db).2.getMessages o sessionID) := by
  induction accs with
  | nil => exact fun _ _ h => ⟨h, List.prefix_refl _⟩
  | cons a rest ih =>
    intro page db h
    cases a with
    | save m =>
      have h' : Appending db sessionID (((Access.save m).savedFor sessionID).toList ++
          rest.filterMap (Access.savedFor sessionID)) := by
        rw [List.filterMap_cons] at h
        cases hm : (Access.save m).savedFor sessionID <;> simpa [hm] using h
      obtain ⟨h₁, hp₁⟩ := getMessages_saveMessage h' o
      obtain ⟨h₂, hp₂⟩ := ih page _ h₁
      exact ⟨h₂, hp₁.trans hp₂⟩
    | readPage => exact ih (page + 1) db h

theorem pageWhileSaving_sublist (orders : Nat → Arrangement) (o : Arrangement) (sessionID : String)
    (n : Nat) (hn : 1 ≤ n) (accs : List Access) :
    ∀ (page : Nat) (db : MySQL), 1 ≤ page →
      (((page : Int) + accs.count .readPage - 2) * n < 9223372036854775808) →
      Appending db sessionID (accs.filterMap (Access.savedFor sessionID)) →
      (pageWhileSaving orders sessionID n page accs db).1.flatten.Sublist
        (((pageWhileSaving orders sessionID n page accs db).2.getMessages o sessionID).drop
          ((page - 1) * n)) := by
  induction accs with
  | nil => exact fun _ _ _ _ _ => List.nil_sublist _
  | cons a rest ih =>
    intro page db hp hw h
    cases a with
    | save m =>
      have h' : Appending db sessionID (((Access.save m).savedFor sessionID).toList ++
          rest.filterMap (Access.savedFor sessionID)) := by
        rw [List.filterMap_cons] at h
        cases hm : (Access.save m).savedFor sessionID <;> simpa [hm] using h
      exact ih page _ hp (by simpa using hw) (getMessages_saveMessage h' o).1
    | readPage =>
      rw [List.count_cons_self] at hw
      simp only [pageWhileSaving, List.flatten_cons]
      set final := (pageWhileSaving orders sessionID n (page + 1) rest db).2
      have hpre := (pageWhileSaving_final orders o sessionID n rest (page + 1) db h).2
      have hrest := ih (page + 1) db (by omega) (by
        have e : ((page + 1 : Nat) : Int) + (rest.count .readPage : Nat) - 2 =
            (page : Int) + ((rest.count .readPage + 1 : Nat) : Int) - 2 := by omega
        rw [e]; exact hw) h
      have hoff : (((page : Int) - 1) * n).toNat = (page - 1) * n := by
        have e : (page : Int) - 1 = ((page - 1 : Nat) : Int) := by omega
        rw [e, ← Int.natCast_mul, Int.toNat_ofNat]
      have hagree := arrange_eq_of_nodup (orders page) o h.nodup
      have hle : ((page : Int) - 1) * n ≤ ((page : Int) + ((rest.count .readPage + 1 : Nat) : Int) - 2) * n :=
        Int.mul_le_mul_of_nonneg_right (by omega) (by omega)
      have hpage : db.getMessagesWithPagination (orders page) sessionID page n =
          some (((db.getMessages o sessionID).drop (((page : Int) - 1) * n).toNat).take (n : Int).toNat) :=
        db.getMessagesWithPagination_eq hagree (by omega) (by omega) (Int.lt_of_le_of_lt hle hw)
      rw [hpage, Option.getD_some, hoff, Int.toNat_ofNat]
      have hmul : (page - 1) * n + n = (page + 1 - 1) * n := by
        rw [Nat.add_sub_cancel]
        conv_rhs => rw [← Nat.sub_add_cancel hp]
        rw [Nat.add_mul, Nat.one_mul]
      have hsplit : (final.getMessages o sessionID).drop ((page - 1) * n) =
          ((final.getMessages o sessionID).drop ((page - 1) * n)).take n ++
            (final.getMessages o sessionID).drop ((page + 1 - 1) * n) := by
        rw [← hmul, ← List.drop_drop, List.take_append_drop]
      rw [hsplit]
      exact ((hpre.drop _).take n).sublist.append hrest

/-- A reader paging through a session while messages later than all its stored ones are
saved reads no message twice and none out of order: the pages, concatenated, are a sublist
of the final `GetMessages`, which holds no message twice, whatever order the reads and the
saves interleave in and however each query arranges its rows, as long as no page offset
wraps. -/
theorem paging_while_saving_reads_once (orders : Nat → Arrangement) (o : Arrangement)
    {sessionID : String} {pageSize : Int} (hs : 1 ≤ pageSize) (db : MySQL) (accs : List Access)
    (h : Appending db sessionID (accs.filterMap (Access.savedFor sessionID)))
    (hw : ((accs.count .readPage : Int) - 1) * pageSize < 9223372036854775808) :
    (pageWhileSaving orders sessionID pageSize 1 accs db).1.flatten.Sublist
        ((pageWhileSaving orders sessionID pageSize 1 accs db).2.getMessages o sessionID) ∧
      ((pageWhileSaving orders sessionID pageSize 1 accs db).2.getMessages o sessionID).Nodup := by
  obtain ⟨n, rfl⟩ := Int.eq_ofNat_of_zero_le (by omega : 0 ≤ pageSize)
  refine ⟨?_, ?_⟩
  · have e : ((1 : Nat) : Int) + (accs.count .readPage : Nat) - 2 = (accs.count .readPage : Int) - 1 := by
      omega
    simpa using pageWhileSaving_sublist orders o sessionID n (by omega) accs 1 db (Nat.le_refl 1)
      (by rw [e]; exact hw) h
  · have hf := (pageWhileSaving_final orders o sessionID n accs 1 db h).1.nodup
    exact List.Nodup.of_map (·.timestamp) (((o.perm _).map (·.timestamp)).nodup_iff.mpr hf)

theorem paging_while_saving_reads_once_sample :
    let db : MySQL := ⟨[⟨"1", "s", 0⟩]⟩
    let accs := [Access.readPage, .save ⟨"2", "s", 1⟩, .save ⟨"3", "s", 2⟩, .readPage]
    (1 : Int) ≤ 2 ∧ Appending db "s" (accs.filterMap (Access.savedFor "s")) ∧
      ((accs.count .readPage : Int) - 1) * 2 < 9223372036854775808 ∧
      ((pageWhileSaving (fun _ => byTimestamp) "s" 2 1 accs db).1.flatten.Sublist
          ((pageWhileSaving (fun _ => byTimestamp) "s" 2 1 accs db).2.getMessages byTimestamp "s") ∧
        ((pageWhileSaving (fun _ => byTimestamp) "s" 2 1 accs db).2.getMessages byTimestamp "s").Nodup) := by
  intro db accs
  have hs : (1 : Int) ≤ 2 := by decide
  have h : Appending db "s" (accs.filterMap (Access.savedFor "s")) := ⟨by decide, by decide, by decide⟩
  have hw : ((accs.count .readPage : Int) - 1) * 2 < 9223372036854775808 := by decide
  exact ⟨hs, h, hw, paging_while_saving_reads_once _ byTimestamp hs db accs h hw⟩

end MySQL

end McpGateway.Database
