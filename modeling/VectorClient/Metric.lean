import VectorClient.DataError

/-!
# Metrics and consistency levels
-/

namespace VectorClient

/-- Distance or similarity of a vector search. -/
inductive Metric where
  | l2
  | innerProduct
  | cosine
  | hamming
  | jaccard
  | bm25
deriving DecidableEq, Repr

namespace Metric

def name : Metric → String
  | l2 => "L2"
  | innerProduct => "IP"
  | cosine => "COSINE"
  | hamming => "HAMMING"
  | jaccard => "JACCARD"
  | bm25 => "BM25"

/-- The name used in encoded data. -/
def tag : Metric → String
  | l2 => "L2"
  | innerProduct => "Ip"
  | cosine => "Cosine"
  | hamming => "Hamming"
  | jaccard => "Jaccard"
  | bm25 => "Bm25"

def all : List Metric := [l2, innerProduct, cosine, hamming, jaccard, bm25]

/-- Distances: a smaller score is a closer hit. -/
def smallerIsCloser : Metric → Bool
  | l2 | hamming | jaccard => true
  | innerProduct | cosine | bm25 => false

/-- Reads a name in letters of either case. -/
def ofText (text : String) : Except DataError Metric :=
  match all.find? fun m => m.name == text.map Char.toUpper with
  | some m => .ok m
  | none => .error (.invalidValue (.unknownMetric text))

end Metric

/-- How fresh the data of a read has to be. -/
inductive Consistency where
  | strong
  | session
  | bounded
  | eventually
  | collectionDefault
deriving DecidableEq, Repr

namespace Consistency

instance : Inhabited Consistency := ⟨collectionDefault⟩

def name : Consistency → String
  | strong => "Strong"
  | session => "Session"
  | bounded => "Bounded"
  | eventually => "Eventually"
  | collectionDefault => "Default"

def all : List Consistency := [strong, session, bounded, eventually, collectionDefault]

end Consistency

end VectorClient
