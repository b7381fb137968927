import AnalystQuery.Text.Blank
import AnalystQuery.Text.LetterCase

/-! The nine categories of things that a question may name. -/

namespace AnalystQuery

inductive Category where
  | customers
  | channels
  | sentiments
  | topics
  | categories
  | priorities
  | regions
  | products
  | statuses
  deriving DecidableEq, Repr

namespace Category

/-- All categories, in the order in which they are listed everywhere. -/
def all : List Category :=
  [customers, channels, sentiments, topics, categories, priorities, regions, products, statuses]

def name : Category → String
  | customers => "customers"
  | channels => "channels"
  | sentiments => "sentiments"
  | topics => "topics"
  | categories => "categories"
  | priorities => "priorities"
  | regions => "regions"
  | products => "products"
  | statuses => "statuses"

def singular : Category → String
  | customers => "customer"
  | channels => "channel"
  | sentiments => "sentiment"
  | topics => "topic"
  | categories => "category"
  | priorities => "priority"
  | regions => "region"
  | products => "product"
  | statuses => "status"

/-- The category of a key in plural or singular, whatever the case of its letters. -/
def ofKey? (key : String) : Option Category :=
  let word := Text.lowerCase (Text.trim key)
  all.find? fun category => category.name == word || category.singular == word

def ofName? (name : String) : Option Category := all.find? (·.name == name)

end Category

end AnalystQuery
