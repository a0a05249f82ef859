import MGMDB.Unicode
import MGMDB.Foundation
import MGMDB.Dictionary
import MGMDB.CLibrary
import MGMDB.Quote
import MGMDB.Codec
import MGMDB.MySQL.Literal
import MGMDB.MySQL.Result
import MGMDB.Query.Format
import MGMDB.Query.Template
import MGMDB.MyResult.Column
import MGMDB.MyResult.Rows
import MGMDB.Systems.Machine
import MGMDB.SQLite.Vdbe
import MGMDB.LiteResult.Rows
import MGMDB.LiteResult.Step
import MGMDB.LiteResult.Cursor
import MGMDB.LiteResult.Once
import MGMDB.MyConnection.Query
import MGMDB.Outcome
import MGMDB.LiteConnection.Close
import MGMDB.SQLite.Locks
import MGMDB.SQLite.Settled
import MGMDB.SQLite.Refused
import MGMDB.LiteConnection.Busy
import MGMDB.SQLite.Literal
import MGMDB.LiteResult.Value
import MGMDB.RowForms
import MGMDB.MyConnection.Session
import MGMDB.MyConnection.Uses
import MGMDB.MyConnection.Handles
import MGMDB.MyConnection.Drained
import MGMDB.MyConnection.Resources
import MGMDB.MyConnection.Answers
import MGMDB.MyConnection.Queries
import MGMDB.LiteConnection.Session
import MGMDB.MyConnection.Errors
import MGMDB.ErrorNumbers
import MGMDB.MySQL.Lengths
import MGMDB.MyConnection.Lifetimes
import MGMDB.MyConnection.Reading
import MGMDB.MyResult.Cursor
import MGMDB.LiteResult.Ends
import MGMDB.MyResult.Numbers
import MGMDB.Query.Grammar
import MGMDB.Formats
import MGMDB.Handed
import MGMDB.MyResult.Dates
import MGMDB.MyConnection.Pings
import MGMDB.MySQL.Latin1
import MGMDB.MySQL.Lexer
import MGMDB.MyConnection.Names
import MGMDB.Exchanges
import MGMDB.SQLite.Apart
import MGMDB.Shape
import MGMDB.EscapeData
import MGMDB.LiteConnection.Dequote
import MGMDB.Query.Slot
import MGMDB.CStrings
import MGMDB.MyConnection.Zones
import MGMDB.Lexing.Lookahead
import MGMDB.SQLite.Numerals
import MGMDB.LiteConnection.Operands
import MGMDB.Framing.LittleEndian
import MGMDB.Framing.Pieces
import MGMDB.Framing.Takes
import MGMDB.MySQL.Pack
import MGMDB.MySQL.Vio
import MGMDB.MySQL.NetWrite
import MGMDB.MySQL.NetRead
import MGMDB.MySQL.Frames
import MGMDB.MySQL.NetPlain
import MGMDB.Framing.Slices
import MGMDB.MySQL.NetCompressed
import MGMDB.MySQL.NetBlocks
import MGMDB.MySQL.NetExchange
import MGMDB.MySQL.RowPacket
import MGMDB.MySQL.Simulation
import MGMDB.MySQL.Line
import MGMDB.MySQL.Served
