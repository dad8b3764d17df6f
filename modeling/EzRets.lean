import EzRets.ConnectHistory
import EzRets.FetchRow
import EzRets.Reconnect
import EzRets.NullResultSet
import EzRets.TableNames
import EzRets.Bindings
import EzRets.FetchTruncation
import EzRets.GetData
import EzRets.StreamedReads
import EzRets.ReExecution
import EzRets.ConnectionInfo
import EzRets.NotImplemented
import EzRets.RetsENV
import EzRets.ConnectionCalls
import EzRets.OpenConnection
import EzRets.BulkCursor
import EzRets.ObjectRows
import EzRets.BadColumn
import EzRets.ColumnDescriptions
import EzRets.Lib.RecordLog
import EzRets.HandleCalls
import EzRets.OwnRecords
import EzRets.FailureRecords
import EzRets.DiagAgreement
import EzRets.TextResults
import EzRets.Lib.Ownership
import EzRets.HandleTree
import EzRets.RowArraySize
import EzRets.DebugLogging
import EzRets.SavedSettings
import EzRets.TableCache
import EzRets.WorkerStores
import EzRets.IgnoreMetadataType
import EzRets.ColumnListing
import EzRets.TableListing
import EzRets.NumericValue
import EzRets.CatalogRows
import EzRets.ObjectKeys
import EzRets.ReadEnds
import EzRets.DateAgreement
import EzRets.IntegerValues
import EzRets.NumericGrammar
import EzRets.BlankPadding
import EzRets.MultiLookups
import EzRets.DefaultTypes
import EzRets.LookupSizes
import EzRets.ExtendedFetch
import EzRets.TargetAddresses
import EzRets.Lib.FailPoints
import EzRets.Reconfiguring
import EzRets.SelectLists
import EzRets.ColumnAgreement
import EzRets.LookupQueries
import EzRets.TableTypes
import EzRets.ConnectOutcome
import EzRets.FailedPrepare
import EzRets.DriverRuns
import EzRets.LentMemory
import EzRets.ReadLoop
import EzRets.Reads
import EzRets.Requests
import EzRets.SetupRequests
import EzRets.SetupDialog
import EzRets.BoundReads
import EzRets.Shutdown
import EzRets.Environments
import EzRets.CarefulCalls
import EzRets.DriverSafety
