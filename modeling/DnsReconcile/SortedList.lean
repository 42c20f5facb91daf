/-!
Lists in ascending order without repetitions, as the one form of a finite set.
-/

namespace DnsReconcile.SortedList

variable {α : Type} [Ord α]

/-- An ascending list with one more member, in its place, unless it is there
already. -/
def insert (a : α) : List α → List α
  | [] => [a]
  | b :: rest =>
    match compare a b with
    | .lt => a :: b :: rest
    | .eq => b :: rest
    | .gt => b :: insert a rest

/-- An ascending list with more members. -/
def insertAll (bs : List α) (as : List α) : List α := as.foldl (fun bs a => insert a bs) bs

/-- The members of a list in ascending order, each once. -/
def ofList (as : List α) : List α := insertAll [] as

end DnsReconcile.SortedList
