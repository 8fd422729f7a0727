/-! Names that resemble a name that was not found. -/

namespace ReplyTemplate.Similarity

/-- Whether the first list stands somewhere in the second without gaps. -/
def occursIn (part : List Char) : List Char → Bool
  | [] => part.isEmpty
  | c :: rest => part.isPrefixOf (c :: rest) || occursIn part rest

/-- A candidate that holds the query counts most at its start, and one inside the query least. -/
def containment (query candidate : List Char) : Nat :=
  if query.isPrefixOf candidate then 100
  else if occursIn query candidate then 50
  else if occursIn candidate query then 30
  else 0

/-- How many different characters of the query the candidate has. -/
def sharedCharacters (query candidate : List Char) : Nat :=
  (query.eraseDups.filter candidate.contains).length

/-- The points that names of equal length gain; each byte of difference takes one away. -/
def closenessLimit : Nat := 5

def closeness (query candidate : String) : Nat :=
  closenessLimit - max (query.utf8ByteSize - candidate.utf8ByteSize)
    (candidate.utf8ByteSize - query.utf8ByteSize)

/-- How much a candidate resembles the query. Without containment more than half of the query's
characters must be shared. -/
def score (query candidate : String) : Nat :=
  let contained := containment query.toList candidate.toList
  let shared := sharedCharacters query.toList candidate.toList
  if contained = 0 ∧ shared * 2 < max query.toList.eraseDups.length 1 + 1 then 0
  else contained + shared * 2 + closeness query candidate

/-- The higher score first, and equal scores in the order of the names. -/
def precedes (a b : String × Nat) : Bool := b.2 < a.2 || (a.2 == b.2 && a.1 ≤ b.1)

/-- The names that resemble the query, the closest first, when all are compared after `fold`. -/
def rank (fold : String → String) (names : List String) (query : String) : List String :=
  let scored := names.map fun name => (name, score (fold query) (fold name))
  ((scored.filter fun entry => 0 < entry.2).mergeSort precedes).map Prod.fst

end ReplyTemplate.Similarity
