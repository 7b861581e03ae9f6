import CloudProvider.AsyncRequest

/-!
# Settings of a provider
-/

namespace CloudProvider

/-- What the operations of a provider depend on, apart from the remote. -/
structure Settings where
  /-- The region of data sources that name none. -/
  region : String
  pageSize : UInt64
  polling : AsyncRequest.Polling

end CloudProvider
