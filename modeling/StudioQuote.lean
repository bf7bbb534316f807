import StudioQuote.Proofs.Draft.Gated
import StudioQuote.Proofs.Draft.Preview
import StudioQuote.Proofs.Http.Stateless
import StudioQuote.Proofs.Price.Eligible
import StudioQuote.Proofs.Price.Order
import StudioQuote.Proofs.Publish.Conflict
import StudioQuote.Proofs.Publish.Defects
import StudioQuote.Proofs.Quote.Asked
import StudioQuote.Proofs.Quote.AutoSelect
import StudioQuote.Proofs.Quote.Picks
import StudioQuote.Proofs.Rule.Operators
import StudioQuote.Proofs.Rule.Strict
import StudioQuote.Proofs.Sections
import StudioQuote.Proofs.Service.Isolation
import StudioQuote.Proofs.Service.ShootingCategories
import StudioQuote.Proofs.Service.Simultaneous
import StudioQuote.Settings
import StudioQuote.Proofs.Store.Bindable
