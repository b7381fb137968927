import AnalystQuery.Intent.Category

/-! The things that a question names: for each category a list of distinct, non-empty values in
the order in which they came. -/

namespace AnalystQuery

structure Entities where
  customers : List String
  channels : List String
  sentiments : List String
  topics : List String
  categories : List String
  priorities : List String
  regions : List String
  products : List String
  statuses : List String
  deriving DecidableEq, Repr

namespace Entities

def empty : Entities := ⟨[], [], [], [], [], [], [], [], []⟩

def get (entities : Entities) : Category → List String
  | .customers => entities.customers
  | .channels => entities.channels
  | .sentiments => entities.sentiments
  | .topics => entities.topics
  | .categories => entities.categories
  | .priorities => entities.priorities
  | .regions => entities.regions
  | .products => entities.products
  | .statuses => entities.statuses

def set (entities : Entities) (category : Category) (values : List String) : Entities :=
  match category with
  | .customers => { entities with customers := values }
  | .channels => { entities with channels := values }
  | .sentiments => { entities with sentiments := values }
  | .topics => { entities with topics := values }
  | .categories => { entities with categories := values }
  | .priorities => { entities with priorities := values }
  | .regions => { entities with regions := values }
  | .products => { entities with products := values }
  | .statuses => { entities with statuses := values }

def accepts (entities : Entities) (category : Category) (value : String) : Bool :=
  value != "" && !(entities.get category).contains value

/-- Adds a value to a category unless it is empty or already there. -/
def insert (entities : Entities) (category : Category) (value : String) : Entities :=
  if entities.accepts category value then
    entities.set category (entities.get category ++ [value])
  else entities

/-- Adds a value to a category as `insert` does, and tells whether it was new there. -/
def insertIfNew (entities : Entities) (category : Category) (value : String) : Bool × Entities :=
  (entities.accepts category value, entities.insert category value)

def isEmpty (entities : Entities) : Bool :=
  Category.all.all fun category => (entities.get category).isEmpty

def toList (entities : Entities) : List (Category × List String) :=
  (Category.all.map fun category => (category, entities.get category)).filter (!·.2.isEmpty)

end Entities

end AnalystQuery
