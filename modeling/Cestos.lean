import Cestos.Inventory.Reserved
import Cestos.Inventory.Concurrency
import Cestos.Inventory.Custody
import Cestos.Inventory.Returns
import Cestos.Inventory.Transit
import Cestos.Inventory.Fulfilment
import Cestos.Inventory.History
import Cestos.Inventory.Sequential
import Cestos.Inventory.Quarantine
import Cestos.Inventory.ReservedSerials
import Cestos.Procurement.Approved
import Cestos.Procurement.Creation
import Cestos.Procurement.Goods
import Cestos.Procurement.Linking
import Cestos.Procurement.Totals
import Cestos.Expenses.Balance
import Cestos.Accounts.Chains
import Cestos.Accounts.Setups
import Cestos.Accounts.Deadlock
import Cestos.Salaries.Disjoint
import Cestos.Drilling.Meterage
import Cestos.Drilling.Earned
import Cestos.Drilling.Effects
import Cestos.Drilling.Mobilization
import Cestos.Drilling.Splits
import Cestos.Drilling.Programs
import Cestos.Drilling.FinalDepth
import Cestos.Drilling.Corrections
import Cestos.Mail.Progress
import Cestos.Maintenance.CostPosting
import Cestos.Maintenance.Closed
import Cestos.Maintenance.Recurrence
import Cestos.Workbooks.Synced
import Cestos.Counters.Numbers
import Cestos.Notifications.Stages
import Cestos.Feed.Detection
import Cestos.Feed.Requests
import Cestos.Shares.Concealed
import Cestos.Shares.Revisions
import Cestos.Documents.Registered
import Cestos.Documents.Ready
import Cestos.Documents.Private
import Cestos.Documents.Ownership
import Cestos.Employees.LeaveDays
import Cestos.Employees.Links
import Cestos.Employees.Lines
import Cestos.Employees.Primary
import Cestos.Equipment.Ancestors
import Cestos.Equipment.Readings
import Cestos.Equipment.Eligible
import Cestos.Equipment.Completed
import Cestos.Equipment.Ownership
import Cestos.Equipment.Media
import Cestos.Schedules.Periods
import Cestos.Schemas.Meaning
import Cestos.Documents.Cleanup
import Cestos.Inventory.Consumption
import Cestos.Inventory.Forecast
import Cestos.Inventory.Categories
import Cestos.Inventory.Counting
import Cestos.Inventory.Undoing
import Cestos.Inventory.FieldLogs
import Cestos.Inventory.Imports
import Cestos.Schedules.Runs
import Cestos.Expenses.Statuses
import Cestos.Maintenance.Completable
import Cestos.Employees.PrimaryContacts
import Cestos.Employees.CurrentResumes
import Cestos.Employees.Availability
import Cestos.Fuel.Receipts
import Cestos.Fuel.Sites
import Cestos.Fuel.Windows
import Cestos.Vendors.Names
import Cestos.Schemas.Repaired
import Cestos.Schemas.Kept
import Cestos.Schemas.Raises
import Cestos.Shares.Raises
import Cestos.Shares.Returned
import Cestos.Drilling.Cored.Overflow
import Cestos.Reports.Metrics
import Cestos.Timesheets.Once
import Cestos.Reports.Sites
import Cestos.JobCards.Cards
import Cestos.Equipment.Register
import Cestos.Core.Constraints
import Cestos.Workbooks.Insertions
import Cestos.Storage.Agreement
import Cestos.Storage.Migration
import Cestos.Documents.Library
import Cestos.Accounts.Roles
import Cestos.Timesheets.Saved
