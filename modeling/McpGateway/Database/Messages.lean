import Mathlib.Data.List.Sort

/-!
# Paging through a session's stored messages

`GetMessages` and `GetMessagesWithPagination` read the `messages` table through GORM: the
rows of one session `ORDER BY timestamp asc`, and for a page `OFFSET (page - 1) * pageSize
LIMIT pageSize`, the offset computed in Go's `int`, which wraps. `ORDER BY` fixes the order
of rows with different stored timestamps only; `Arrangement` is the order the database picks
for one query, and each query may pick its own.

`pagination_reads_each_message_once`: when the offset does not wrap and the query arranges the
rows as `GetMessages` did, a page is the segment of `GetMessages` at its offset, and enough
pages give it back whole. With a shared timestamp, or a wrapped offset, pages repeat and lose
messages (`pages_repeat_and_wrap`).
-/

namespace McpGateway.Database

/-- A row of the `messages` table. The declaration of `Message` is not among the sources:
the fields are the columns the queries name, and an id that tells rows apart. `timestamp` is
the column as stored: GORM declares a `time.Time` field `datetime(3)` on MySQL, so it holds
the time of the save in milliseconds, and saves less than a millisecond apart can hold the
same value. -/
structure Message where
  id : String
  sessionID : String
  timestamp : Int
  deriving DecidableEq, Repr

def NotLater (a b : Message) : Prop := a.timestamp ≤ b.timestamp

instance : DecidableRel NotLater := fun a b => inferInstanceAs (Decidable (a.timestamp ≤ b.timestamp))

instance : IsTotal Message NotLater := ⟨fun a b => Int.le_total a.timestamp b.timestamp⟩

instance : IsTrans Message NotLater := ⟨fun _ _ _ => Int.le_trans⟩

/-- How the database lays out the rows of one `ORDER BY timestamp asc` query: sorted by
timestamp, with rows of equal timestamp in an order of its choosing. -/
structure Arrangement where
  arrange : List Message → List Message
  perm : ∀ rows, (arrange rows).Perm rows
  sorted : ∀ rows, (arrange rows).Sorted NotLater

def byTimestamp : Arrangement where
  arrange rows := rows.insertionSort NotLater
  perm := List.perm_insertionSort NotLater
  sorted := List.sorted_insertionSort NotLater

def byTimestampReversed : Arrangement where
  arrange rows := rows.reverse.insertionSort NotLater
  perm rows := (List.perm_insertionSort NotLater _).trans (List.reverse_perm rows)
  sorted _ := List.sorted_insertionSort NotLater _

def wrapInt (x : Int) : Int :=
  (x + 9223372036854775808) % 18446744073709551616 - 9223372036854775808

def offset (n : Int) (rows : List Message) : List Message := if 0 < n then rows.drop n.toNat else rows

def limit (n : Int) (rows : List Message) : List Message := if 0 ≤ n then rows.take n.toNat else rows

structure MySQL where
  messages : List Message

namespace MySQL

def rowsOf (db : MySQL) (sessionID : String) : List Message :=
  db.messages.filter (·.sessionID == sessionID)

def getMessages (db : MySQL) (order : Arrangement) (sessionID : String) : List Message :=
  order.arrange (db.rowsOf sessionID)

/-- `none` is the error MySQL returns for an `OFFSET` with no `LIMIT` before it, which is what
GORM writes for a positive offset and a negative `pageSize`. -/
def getMessagesWithPagination (db : MySQL) (order : Arrangement) (sessionID : String)
    (page pageSize : Int) : Option (List Message) :=
  let offsetRows := wrapInt (wrapInt (page - 1) * pageSize)
  if pageSize < 0 ∧ 0 < offsetRows then none
  else some (limit pageSize (offset offsetRows (order.arrange (db.rowsOf sessionID))))

def pagesThrough (db : MySQL) (orders : Nat → Arrangement) (sessionID : String)
    (pageSize : Int) : Nat → Option (List Message)
  | 0 => some []
  | k + 1 => do
    let pages ← db.pagesThrough orders sessionID pageSize k
    let page ← db.getMessagesWithPagination (orders (k + 1)) sessionID (k + 1) pageSize
    return pages ++ page

end MySQL

-- ---------------------------------------------------------------------------
-- Offsets that do not wrap
-- ---------------------------------------------------------------------------

theorem wrapInt_of_lt {x : Int} (h0 : -9223372036854775808 ≤ x) (h1 : x < 9223372036854775808) :
    wrapInt x = x := by
  unfold wrapInt; omega

theorem offset_of_nonneg {n : Int} (h : 0 ≤ n) (rows : List Message) : offset n rows = rows.drop n.toNat := by
  unfold offset; split
  · rfl
  · rw [show n = 0 by omega]; rfl

theorem limit_of_nonneg {n : Int} (h : 0 ≤ n) (rows : List Message) : limit n rows = rows.take n.toNat :=
  if_pos h

theorem arrange_eq_of_nodup (o o' : Arrangement) {rows : List Message}
    (h : (rows.map (·.timestamp)).Nodup) : o.arrange rows = o'.arrange rows := by
  have hlt : ∀ o : Arrangement, (o.arrange rows).Sorted fun a b => a.timestamp < b.timestamp := by
    intro o
    have hne := List.pairwise_map.mp (((o.perm rows).map (·.timestamp)).nodup_iff.mpr h)
    exact ((o.sorted rows).and hne).imp fun ⟨hle, hne⟩ => Int.lt_iff_le_and_ne.mpr ⟨hle, hne⟩
  haveI : IsAntisymm Message fun a b => a.timestamp < b.timestamp :=
    ⟨fun _ _ h₁ h₂ => absurd (Int.lt_trans h₁ h₂) (Int.lt_irrefl _)⟩
  exact List.eq_of_perm_of_sorted ((o.perm rows).trans (o'.perm rows).symm) (hlt o) (hlt o')

namespace MySQL

variable (db : MySQL) {sessionID : String}

theorem getMessagesWithPagination_eq {order o : Arrangement}
    (ho : o.arrange (db.rowsOf sessionID) = order.arrange (db.rowsOf sessionID))
    {page pageSize : Int} (hp : 1 ≤ page) (hs : 1 ≤ pageSize)
    (hw : (page - 1) * pageSize < 9223372036854775808) :
    db.getMessagesWithPagination o sessionID page pageSize =
      some (((db.getMessages order sessionID).drop ((page - 1) * pageSize).toNat).take pageSize.toNat) := by
  have hle : (page - 1) * 1 ≤ (page - 1) * pageSize := Int.mul_le_mul_of_nonneg_left hs (by omega)
  have h0 : 0 ≤ (page - 1) * pageSize := Int.mul_nonneg (by omega) (by omega)
  rw [getMessagesWithPagination, wrapInt_of_lt (x := page - 1) (by omega) (by omega),
    wrapInt_of_lt (by omega) hw, if_neg (by omega),
    offset_of_nonneg h0, limit_of_nonneg (by omega), ho, getMessages]

theorem pagesThrough_eq_take {order : Arrangement} {orders : Nat → Arrangement}
    (ho : ∀ i, (orders i).arrange (db.rowsOf sessionID) = order.arrange (db.rowsOf sessionID))
    {pageSize : Int} (hs : 1 ≤ pageSize) (k : Nat)
    (hk : ((k : Int) - 1) * pageSize < 9223372036854775808) :
    db.pagesThrough orders sessionID pageSize k =
      some ((db.getMessages order sessionID).take (k * pageSize.toNat)) := by
  obtain ⟨n, rfl⟩ := Int.eq_ofNat_of_zero_le (by omega : 0 ≤ pageSize)
  induction k with
  | zero => simp [pagesThrough]
  | succ k ih =>
    have hk1 : (k : Int) * n < 9223372036854775808 := by simpa using hk
    have hoff : (((k : Int) + 1 - 1) * n).toNat = k * n := by
      rw [Int.add_sub_cancel, ← Int.natCast_mul, Int.toNat_ofNat]
    rw [pagesThrough, ih (by rw [Int.sub_mul, Int.one_mul]; omega),
      getMessagesWithPagination_eq db (ho (k + 1)) (by omega) hs (by simpa using hk1), hoff,
      Int.toNat_ofNat, Nat.succ_mul, List.take_add]
    rfl

/-- Every page of queries that arrange the session's rows as `GetMessages` did, at offsets
that fit in `int`, is its segment of `GetMessages`; enough pages give it back whole. -/
theorem pagination_reads_each_message_once (order : Arrangement) (orders : Nat → Arrangement)
    (hagree : ∀ i, (orders i).arrange (db.rowsOf sessionID) = order.arrange (db.rowsOf sessionID))
    {pageSize : Int} (hs : 1 ≤ pageSize) :
    (∀ page : Nat, 1 ≤ page → ((page : Int) - 1) * pageSize < 9223372036854775808 →
        db.getMessagesWithPagination (orders page) sessionID page pageSize =
          some (((db.getMessages order sessionID).drop (((page : Int) - 1) * pageSize).toNat).take
            pageSize.toNat)) ∧
      ∀ k : Nat, ((k : Int) - 1) * pageSize < 9223372036854775808 →
        (db.getMessages order sessionID).length ≤ k * pageSize.toNat →
        db.pagesThrough orders sessionID pageSize k = some (db.getMessages order sessionID) :=
  ⟨fun page hp hw => db.getMessagesWithPagination_eq (hagree page) (by omega) hs hw,
    fun k hk hlen => by rw [db.pagesThrough_eq_take hagree hs k hk, List.take_of_length_le hlen]⟩

end MySQL

theorem pagination_reads_each_message_once_sample :
    let db : MySQL := ⟨[⟨"1", "s", 1⟩, ⟨"2", "s", 0⟩]⟩
    let orders : Nat → Arrangement := fun i => if i % 2 = 0 then byTimestamp else byTimestampReversed
    (∀ i, (orders i).arrange (db.rowsOf "s") = byTimestamp.arrange (db.rowsOf "s")) ∧ (1 : Int) ≤ 1 ∧
      db.pagesThrough orders "s" 1 2 = some (db.getMessages byTimestamp "s") :=
  have hagree := fun _ => arrange_eq_of_nodup _ byTimestamp (by decide)
  ⟨hagree, le_refl _,
    (MySQL.pagination_reads_each_message_once _ byTimestamp _ hagree (le_refl _)).2 2 (by decide) (by decide)⟩

/-- Session `s` holds two messages with the same timestamp. Pages of one message each,
the first query keeping ties in storage order and the second reversing them, read the
first message twice and the second never; and page `2^62 + 1` of four messages has
offset `2^64`, which wraps to `0`, so it reads the session from its start. -/
theorem pages_repeat_and_wrap :
    let m₁ : Message := ⟨"1", "s", 0⟩
    let m₂ : Message := ⟨"2", "s", 0⟩
    let db : MySQL := ⟨[m₁, m₂]⟩
    db.pagesThrough (fun i => if i = 1 then byTimestamp else byTimestampReversed) "s" 1 2 = some [m₁, m₁] ∧
      (∀ o : Arrangement, db.pagesThrough (fun i => if i = 1 then byTimestamp else byTimestampReversed) "s" 1 2 ≠
        some (db.getMessages o "s")) ∧
      ∀ o : Arrangement, (db.getMessagesWithPagination o "s" 4611686018427387905 4).map List.length = some 2 := by
  intro m₁ m₂ db
  have hp : db.pagesThrough (fun i => if i = 1 then byTimestamp else byTimestampReversed) "s" 1 2 =
      some [m₁, m₁] := rfl
  refine ⟨hp, fun o h => ?_, fun o => ?_⟩
  · have hm : m₂ ∈ db.getMessages o "s" := (o.perm _).mem_iff.mpr (by decide)
    rw [← Option.some.inj (hp.symm.trans h)] at hm
    exact absurd hm (by decide)
  · have hoff : wrapInt (wrapInt (4611686018427387905 - 1) * 4) = 0 := by decide
    simp only [MySQL.getMessagesWithPagination, hoff, offset, limit]
    simp [(o.perm _).length_eq, MySQL.rowsOf]

end McpGateway.Database
